import GridRobot.Proofs.Run.CallDepth
import GridRobot.Proofs.Run.Refinement

/-!
A program beside the same program with a function inlined into it. The run of the plain program is read as if it had
the body of the function in the place of each call that the program makes itself: such a call is not counted, and takes
none of the room that the limit leaves for calls. `advance_leadsInlined` keeps where a run leads by this reading, and
that is where the other program leads.
-/
namespace GridRobot

/-! ### Inlining

The calls of one function are replaced by the body of that function, wherever they stand. The functions stay as they
are, so what the body calls, it still calls. -/

namespace Instruction

def calls (f : Json) : Instruction → Bool
  | .call name => name.same f
  | _ => false

mutual

def inlined (f : Json) (body : Body) : Instruction → Instruction
  | .repeatTimes count inner => .repeatTimes count (inlinedBody f body inner)
  | .ifThen condition inner => .ifThen condition (inlinedBody f body inner)
  | .ifElse condition thenBody elseBody =>
    .ifElse condition (inlinedBody f body thenBody) (inlinedBody f body elseBody)
  | .whileDo condition inner => .whileDo condition (inlinedBody f body inner)
  -- The body of a definition is the body of a function.
  | node => node

def inlinedBody (f : Json) (body : Body) : List Instruction → List Instruction
  | [] => []
  | node :: rest =>
    if node.calls f then body ++ inlinedBody f body rest else node.inlined f body :: inlinedBody f body rest

end

end Instruction

namespace FunctionTable

theorem look_same {functions : FunctionTable} {name f : Json} {body : Body}
    (defined : functions.look f = .ok (some body)) (same : name.same f = true) :
    functions.look name = .ok (some body) := by
  have usable : f.key = .ok f := by
    cases f with
    | arr | obj => cases defined
    | _ => rfl
  obtain ⟨key, alike⟩ := Json.key_of_same usable same
  rw [look, usable] at defined
  rw [look, key, ← defined]
  simp only [Except.map, body?, alike]

end FunctionTable

/-! ### Running both -/

open Instruction (bodyMeaning inlinedBody)

def Trail.leave (trail : Trail) : Trail := { trail with executed := trail.executed - 1 }

namespace Instruction

variable (f : Json) (body : Body)

/-- Calls by one name do what a body does in their place, and are not counted. -/
def callsInlined (calls : Json → Trail → Course) (name : Json) (trail : Trail) : Course :=
  if name.same f then bodyMeaning calls body trail.leave else calls name trail

variable (calls : Json → Trail → Course)

theorem bodyMeaning_append (first rest : Body) :
    bodyMeaning calls (first ++ rest) =
      fun trail => (bodyMeaning calls first trail).andThen (bodyMeaning calls rest) := by
  induction first with
  | nil => rfl
  | cons node first ih =>
    funext trail
    simp only [List.cons_append, bodyMeaning, Course.andThen_assoc, ih]

mutual

theorem meaning_inlined (node : Instruction) (other : node.calls f = false) :
    (node.inlined f body).meaning calls = node.meaning (callsInlined f body calls) := by
  funext trail
  cases node with
  | repeatTimes count inner => simp only [inlined, meaning, bodyMeaning_inlined inner]
  | ifThen condition inner => simp only [inlined, meaning, bodyMeaning_inlined inner]
  | ifElse condition thenBody elseBody =>
    simp only [inlined, meaning, bodyMeaning_inlined thenBody, bodyMeaning_inlined elseBody]
  | whileDo condition inner => simp only [inlined, meaning, bodyMeaning_inlined inner]
  | call name =>
    have apart : name.same f = false := other
    simp only [inlined, meaning, callsInlined, apart, Bool.false_eq_true, if_false]
  | _ => simp only [inlined, meaning]

theorem bodyMeaning_inlined (inner : Body) :
    bodyMeaning calls (inlinedBody f body inner) = bodyMeaning (callsInlined f body calls) inner := by
  funext trail
  cases inner with
  | nil => simp only [inlinedBody, bodyMeaning]
  | cons node rest =>
    rw [inlinedBody]
    cases own : node.calls f with
    | false =>
      rw [if_neg Bool.false_ne_true, bodyMeaning, bodyMeaning, meaning_inlined node own, bodyMeaning_inlined rest]
    | true =>
      cases node with
      | call name =>
        have same : name.same f = true := own
        have back : trail.enter.leave = trail := rfl
        simp only [if_true, bodyMeaning_append, bodyMeaning, meaning, callsInlined, same, back,
          bodyMeaning_inlined rest]
      | _ => cases own

end

end Instruction

namespace Frame

/-- How deep calls are nested if the program makes none of the function itself. -/
def inlinedDepth (f : Json) : List Frame → Nat
  | [] => 0
  | .calling name :: outer => if callDepth outer = 0 ∧ name.same f then 0 else inlinedDepth f outer + 1
  | _ :: outer => inlinedDepth f outer

theorem inlinedDepth_inner (f : Json) {frame : Frame} (inner : frame.isCall = false) (frames : List Frame) :
    inlinedDepth f (frame :: frames) = inlinedDepth f frames := by
  cases frame with
  | calling name => cases inner
  | block | repeating | looping => rfl

theorem inlinedDepth_le (f : Json) (frames : List Frame) : inlinedDepth f frames ≤ callDepth frames := by
  induction frames with
  | nil => exact Nat.le_refl _
  | cons frame outer ih =>
    cases inner : frame.isCall with
    | false => rwa [inlinedDepth_inner f inner, callDepth_inner inner]
    | true =>
      cases frame with
      | calling name =>
        have deeper : callDepth (.calling name :: outer) = callDepth outer + 1 := List.countP_cons_of_pos rfl
        rw [inlinedDepth, deeper]
        split
        · exact Nat.zero_le _
        · exact Nat.succ_le_succ ih
      | block | repeating | looping => cases inner

/-- What calls do if the program has a body in the place of its own calls of a function. -/
def callsInlined (f : Json) (body : Body) (functions : FunctionTable) (limit : CallLimit) : Reading := fun frames =>
  if callDepth frames = 0 then Instruction.callsInlined f body (functions.call limit limit.depth)
  else functions.call limit (limit.depth - inlinedDepth f frames)

variable {f : Json} {body : Body} {functions : FunctionTable} {limit : CallLimit} {frames : List Frame}

theorem callsInlined_isSteady (f : Json) (body : Body) (functions : FunctionTable) (limit : CallLimit) :
    Reading.IsSteady (callsInlined f body functions limit) := by
  intro frame frames inner
  rw [callsInlined, callsInlined, callDepth_inner inner, inlinedDepth_inner f inner]

theorem callsInlined_own {name : Json} (own : name.same f = true) (outermost : callDepth frames = 0) :
    callsInlined f body functions limit (.calling name :: frames) = functions.call limit limit.depth := by
  have deeper : callDepth (.calling name :: frames) ≠ 0 := by simp [callDepth, isCall]
  rw [callsInlined, if_neg deeper, inlinedDepth, if_pos ⟨outermost, own⟩, Nat.sub_zero]

theorem callsInlined_other {name : Json} (other : ¬(callDepth frames = 0 ∧ name.same f = true)) (trail : Trail) :
    callsInlined f body functions limit frames name trail =
      functions.call limit (limit.depth - inlinedDepth f frames) name trail := by
  rw [callsInlined]
  split
  · rename_i outermost
    have none : inlinedDepth f frames = 0 := by
      have bounded := inlinedDepth_le f frames
      omega
    rw [Instruction.callsInlined, if_neg fun same => other ⟨outermost, same⟩, none, Nat.sub_zero]
  · rfl

theorem callsInlined_calling {name : Json} {inner : Body} (other : ¬(callDepth frames = 0 ∧ name.same f = true))
    (room : callDepth frames < limit.depth) (found : functions.look name = .ok (some inner)) (trail : Trail) :
    callsInlined f body functions limit frames name trail =
      bodyMeaning (callsInlined f body functions limit (.calling name :: frames)) inner trail := by
  have deeper : callDepth (.calling name :: frames) ≠ 0 := by simp [callDepth, isCall]
  have bounded := inlinedDepth_le f frames
  have left : limit.depth - inlinedDepth f frames = limit.depth - (inlinedDepth f frames + 1) + 1 := by omega
  rw [callsInlined_other other, callsInlined, if_neg deeper, inlinedDepth, if_neg other, left]
  rw [FunctionTable.call, found]

end Frame

namespace Engine

/-- Whether a run is suspended at a call by this name that the program makes itself, not one of its functions. -/
def isAtOwnCall (f : Json) (e : Engine) : Bool :=
  match e.phase with
  | .active (some suspension) frames => suspension.node.calls f && Frame.callDepth frames == 0
  | _ => false

def ownCalls (f : Json) (e : Engine) : Nat :=
  match _pending : e.advance.pending? with
  | some _ => (e.isAtOwnCall f).toNat + e.advance.ownCalls f
  | none => (e.isAtOwnCall f).toNat
termination_by e.budget
decreasing_by exact budget_advance_lt _pending

theorem isAtOwnCall_of_phase {e : Engine} {suspension : Suspension} {frames : List Frame}
    (phase : e.phase = .active (some suspension) frames) (f : Json) :
    e.isAtOwnCall f = (suspension.node.calls f && Frame.callDepth frames == 0) := by
  simp only [isAtOwnCall, phase]

theorem isAtOwnCall_of_over {e : Engine} (finished : e.isActive = false) (f : Json) : e.isAtOwnCall f = false := by
  unfold isAtOwnCall
  split
  · rename_i phase
    simp [isActive, phase] at finished
  · rfl

theorem ownCalls_of_over {e : Engine} (finished : e.isActive = false) (f : Json) : e.ownCalls f = 0 := by
  have settled : e.advance.pending? = none := by rw [advance_of_over finished, pending?_of_over finished]
  unfold ownCalls
  split
  · rename_i more
    rw [settled] at more
    cases more
  · rw [isAtOwnCall_of_over finished]
    rfl

theorem ownCalls_advance (f : Json) (e : Engine) : e.ownCalls f = (e.isAtOwnCall f).toNat + e.advance.ownCalls f := by
  rw [ownCalls]
  split
  · rfl
  · rename_i finished
    rw [ownCalls_of_over (over_of_pending finished), Nat.add_zero]

variable {e next last : Engine} {f : Json} {body : Body} {functions : FunctionTable} {limit : CallLimit}

theorem call_courseBy {name : Json} {frames after : List Frame} (defined : e.functions.look f = .ok (some body))
    (performed : e.perform (.call name) frames = .onward next after) (counted : Nat) :
    Frame.courseFrom (Frame.callsInlined f body e.functions e.callLimit) (.call name) frames (e.trailAt counted) =
      Frame.courseBy (Frame.callsInlined f body e.functions e.callLimit) after
        (next.trailAt (counted - ((Instruction.call name).calls f && Frame.callDepth frames == 0).toNat)) := by
  -- Only the calls that the program itself makes are spliced, and those have no other call around them.
  by_cases own : Frame.callDepth frames = 0 ∧ name.same f = true
  · obtain ⟨outermost, same⟩ := own
    have found := FunctionTable.look_same defined same
    rcases call_onward performed with ⟨missing, -, -⟩ | ⟨inner, there, -, rfl, rfl⟩
    · rw [found] at missing
      cases missing
    · rw [found] at there
      cases there
      have spliced : Frame.callsInlined f body e.functions e.callLimit frames name (e.trailAt counted) =
          bodyMeaning (e.functions.call e.callLimit e.callLimit.depth) body (e.trailAt counted).leave := by
        rw [Frame.callsInlined, if_pos outermost, Instruction.callsInlined, if_pos same]
      simp only [Frame.courseFrom, Instruction.meaning, spliced, Frame.courseBy, Frame.course,
        Frame.callsInlined_own same outermost, Instruction.calls, same, outermost]
      rfl
  · have plain : ((Instruction.call name).calls f && Frame.callDepth frames == 0) = false := by
      simpa [Instruction.calls, imp_not_comm] using own
    rw [plain, Bool.toNat_false, Nat.sub_zero]
    rcases call_onward performed with ⟨missing, rfl, rfl⟩ | ⟨inner, found, room, rfl, rfl⟩
    · simp only [Frame.courseFrom, Instruction.meaning, Frame.callsInlined_other own]
      rw [FunctionTable.call_undefined missing]
      rfl
    · simp only [Frame.courseFrom, Instruction.meaning, Frame.callsInlined_calling own room found]
      rfl

theorem perform_courseInlined {node : Instruction} {frames after : List Frame}
    (defined : e.functions.look f = .ok (some body)) (performed : e.perform node frames = .onward next after)
    (counted : Nat) :
    Frame.courseFrom (Frame.callsInlined f body e.functions e.callLimit) node frames (e.trailAt counted) =
      Frame.courseBy (Frame.callsInlined f body e.functions e.callLimit) after
        (next.trailAt (counted - (node.calls f && Frame.callDepth frames == 0).toNat)) := by
  cases node with
  | call name => exact call_courseBy defined performed counted
  | _ => exact (perform_courseBy (by simp) (Frame.callsInlined_isSteady _ _ _ _) performed counted).symm

theorem perform_leadsInlined {node : Instruction} {frames : List Frame} {counted spared : Nat}
    (counts : e.executed = counted + spared) (defined : e.functions.look f = .ok (some body))
    (numeric : e.callLimit.fault = none) (performed : e.perform node frames = .ended last)
    (free : ¬last.ExceedsCallDepth) :
    (node.calls f && Frame.callDepth frames == 0) = false ∧
      last.LeadsBy (Frame.callsInlined f body e.functions e.callLimit) spared
        (Frame.courseFrom (Frame.callsInlined f body e.functions e.callLimit) node frames (e.trailAt counted)) := by
  cases node with
  | call name =>
    rcases call_ended performed with ⟨fault, unusable, rfl⟩ | ⟨inner, -, -, rfl⟩
    -- A name that cannot be looked up is not the one that was found.
    · have other : name.same f = false := by
        cases same : name.same f with
        | false => rfl
        | true =>
          rw [FunctionTable.look_same defined same] at unusable
          cases unusable
      have foreign : ¬(Frame.callDepth frames = 0 ∧ name.same f = true) := by simp [other]
      refine ⟨by simp [Instruction.calls, other], ?_⟩
      simp only [Frame.courseFrom, Instruction.meaning, Frame.callsInlined_other foreign]
      rw [FunctionTable.call_fault unusable]
      exact stop_leadsBy counts _ _
    -- The limit is a number, so the call that ends the run here exceeds it.
    · refine absurd ?_ free
      rw [CallLimit.halt, numeric]
      exact stop_exceeds_iff.mpr ⟨_, _, rfl⟩
  | _ =>
    obtain ⟨mid, halt, rfl, same, stopped⟩ := perform_halts (by simp) performed counted
      (Frame.callsInlined f body e.functions e.callLimit frames)
    refine ⟨rfl, ?_⟩
    rw [Frame.courseFrom, stopped]
    exact stop_leadsBy (same.trans counts) _ halt

theorem advance_leadsInlined {spared : Nat} {course : Course} (defined : e.functions.look f = .ok (some body))
    (numeric : e.callLimit.fault = none) (free : ¬e.advance.ExceedsCallDepth)
    (leads : e.LeadsBy (Frame.callsInlined f body e.functions e.callLimit) spared course) :
    e.advance.IsBrokenOff ∨ e.advance.LeadsBy (Frame.callsInlined f body e.functions e.callLimit)
      (spared + (e.isAtOwnCall f).toNat) course := by
  have steady := Frame.callsInlined_isSteady f body e.functions e.callLimit
  have uncalled (finished : e.isActive = false) : spared + (e.isAtOwnCall f).toNat = spared := by
    rw [isAtOwnCall_of_over finished]
    rfl
  obtain ⟨counted, counts, there⟩ := leads
  revert free
  fun_cases advance e with intro free
  | case1 frames phase =>
    have waiting : e.isAtOwnCall f = false := by simp [isAtOwnCall, phase]
    rw [phase] at there
    rw [waiting, ← there]
    exact proceed_leadsBy counts steady frames
  | case2 suspension frames phase cancelled => exact .inl (abort_isBrokenOff cancelled)
  | case3 suspension frames phase running next after performed =>
    have here := isAtOwnCall_of_phase phase f
    rw [phase] at there
    obtain ⟨positive, rfl⟩ := there
    rw [perform_courseInlined defined performed counted, ← here]
    refine proceed_leadsBy ?_ steady after
    have least := Bool.toNat_le (e.isAtOwnCall f)
    rw [(perform_terms performed).executed]
    omega
  | case4 suspension frames phase running last performed =>
    have here := isAtOwnCall_of_phase phase f
    rw [phase] at there
    obtain ⟨-, rfl⟩ := there
    obtain ⟨other, reached⟩ := perform_leadsInlined counts defined numeric performed free
    rw [here, other]
    exact .inr reached
  | case5 phase | case6 result phase =>
    rw [uncalled (by simp [isActive, phase])]
    exact .inr ⟨counted, counts, there⟩

/-- A run with a function inlined has ended like the plain one, which has entered so many instructions more. -/
structure EndsSooner (spared : Nat) (plain flat : Engine) : Prop where
  result : ∃ ending, plain.result? = some ⟨ending, plain.world, plain.executed⟩ ∧
    flat.result? = some ⟨ending, plain.world, flat.executed⟩
  world : flat.world = plain.world
  draws : flat.draws = plain.draws
  fewer : plain.executed = flat.executed + spared

structure IsInlined (f : Json) (body : Body) (functions : FunctionTable) (limit : CallLimit) (course : Course)
    (total : Nat) (e : Engine) : Prop where
  sameFunctions : e.functions = functions
  sameLimit : e.callLimit = limit
  free : ¬(e.drainFrom []).2.ExceedsCallDepth
  leads : ∃ spared, spared + e.ownCalls f = total ∧ e.LeadsBy (Frame.callsInlined f body functions limit) spared course

theorem IsInlined.advance {course : Course} {total : Nat} (defined : functions.look f = .ok (some body))
    (numeric : limit.fault = none) (inlined : e.IsInlined f body functions limit course total) :
    e.advance.IsBrokenOff ∨ e.advance.IsInlined f body functions limit course total := by
  obtain ⟨rfl, rfl, free, spared, all, leads⟩ := inlined
  have within : ¬e.advance.ExceedsCallDepth := by
    intro exceeds
    rw [drainFrom_of_over (pending?_of_over exceeds.isActive)] at free
    exact free exceeds
  refine (advance_leadsInlined defined numeric within leads).imp_right fun onward => ?_
  rw [ownCalls_advance, ← Nat.add_assoc] at all
  rw [drainFrom_advance e [] []] at free
  exact ⟨(advance_table e).1, (advance_table e).2, free, _, all, onward⟩

/-- A call is its body run inline. Where the body of a function is spliced in the place of each call of it in a
program, the program comes to the same end: with the same outcome, world and random numbers left, and with as many
instructions fewer as the plain program enters such calls. The limit on calls is a number and the plain run keeps to it,
the pauses can be computed, and nobody stops either run. -/
theorem drain_inlined {speed : Json} (program : Body) (interactive : Json) (idle : e.isActive = false)
    (positive : Relation.greater.check speed (.int 0) = .ok true)
    (paced : interactive.isTruthy = true ∨ ∃ pause, Pause.atSpeed speed e.baseDelay = .ok pause)
    (numeric : e.callLimit.fault = none) (defined : functions.look f = .ok (some body)) :
    let plain := e.begin program functions speed interactive
    let flat := e.begin (inlinedBody f body program) functions speed interactive
    plain.2 = .ok () ∧ flat.2 = .ok () ∧
      (plain.1.drain.1.cancelled = false → flat.1.drain.1.cancelled = false → ¬plain.1.drain.1.ExceedsCallDepth →
        EndsSooner (plain.1.ownCalls f) plain.1.drain.1 flat.1.drain.1) := by
  intro plain flat
  let first := e.armed program functions speed interactive
  let second := e.armed (inlinedBody f body program) functions speed interactive
  have begun : plain = (first, .ok ()) := begin_eq_armed program functions interactive idle positive
  have begun' : flat = (second, .ok ()) := begin_eq_armed _ functions interactive idle positive
  rw [begun, begun', drain_of_active rfl, drain_of_active rfl]
  refine ⟨rfl, rfl, fun running level free => ?_⟩
  -- Both runs lead to the course of the spliced program; the plain one enters more on its way.
  let course := meaning (inlinedBody f body program) functions e.callLimit e.world e.draws
  have computed : first.IsPaced := (armed_leadsTo program functions interactive speed paced).1
  have starts : first.LeadsBy (Frame.callsInlined f body functions e.callLimit) 0 course := by
    refine ⟨0, rfl, ?_⟩
    change (bodyMeaning (Instruction.callsInlined f body _) program _).andThen _ = course
    rw [← Instruction.bodyMeaning_inlined]
    exact Course.andThen_onward course
  have inlined : first.IsInlined f body functions e.callLimit course (first.ownCalls f) :=
    ⟨rfl, rfl, free, 0, Nat.zero_add _, starts⟩
  obtain ⟨-, -, -, spared, all, leads⟩ :=
    drainFrom_keeps (IsInlined.advance defined numeric) [] computed inlined running
  have settled := drainFrom_over [] first
  rw [ownCalls_of_over settled, Nat.add_zero] at all
  subst all
  obtain ⟨ended, counted, counts, reached⟩ := leads.reached settled
  obtain ⟨ended', reached'⟩ := (drainFrom_leadsTo [] (armed_leadsTo _ functions interactive speed paced) level).reached
    (drainFrom_over [] second)
  have same := reached'.trans reached.symm
  have world : (second.drainFrom []).2.world = (first.drainFrom []).2.world := congrArg Trail.world same
  constructor
  · refine ⟨course.ending, ended, ?_⟩
    rw [ended', Course.result, ← reached', ← world]
    rfl
  · exact world
  · exact congrArg Trail.draws same
  · rw [counts]
    congr 1
    exact (congrArg Trail.executed same).symm

/-- A function that calls itself at random, called from a loop and from a branch inside of it: of the calls that are
made, only those of the program itself are spliced. -/
theorem drain_inlined_nested :
    let e : Engine :=
      { world := .ofBoard { size := 3, start := ⟨⟨0, 0⟩, .right, false⟩, goal := ⟨2, 0⟩, obstacles := [] }
        draws := .ofList [.num (.float ⟨0x3fd0000000000000⟩), .num (.float ⟨0x3fe8000000000000⟩),
          .num (.float ⟨0x3fe8000000000000⟩), .num (.float ⟨0x3fe8000000000000⟩), .num (.float ⟨0x3fe8000000000000⟩)]
        observers := [.silent], baseDelay := .num (.float ⟨0x3fe0000000000000⟩), callLimit := .ofInt 2 }
    let f := Json.str "f"
    let body : Body := [.increment .r1, .ifThen (.sensor .coin) [.call f, .increment .r2]]
    let program : Body :=
      [.repeatTimes (.int 2) [.call f, .ifThen (.sensor .pathClear) [.move, .call f]], .call (.str "g")]
    let speed := Json.num (.float defaultSpeed)
    let plain := (e.begin program [(f, body)] speed (.bool false)).1
    let flat := (e.begin (inlinedBody f body program) [(f, body)] speed (.bool false)).1
    EndsSooner 4 plain.drain.1 flat.drain.1 ∧ plain.drain.1.executed = 22 ∧ flat.drain.1.executed = 18 := by
  intro e f body program speed plain flat
  have above : Number.lt (.int 0) (.float defaultSpeed) = true := by decide +kernel
  have positive : Relation.greater.check speed (.int 0) = .ok true := congrArg Except.ok above
  have defined : FunctionTable.look [(f, body)] f = .ok (some body) := rfl
  obtain ⟨-, -, ends⟩ := drain_inlined (e := e) program (.bool false) rfl positive (.inr ⟨_, Pause.atSpeed_float _ _⟩)
    rfl defined
  have free : ¬plain.drain.1.ExceedsCallDepth := by
    have succeeds : plain.drain.1.result?.map (fun result => result.ending.reason?) = some none := by decide +kernel
    rintro ⟨result, ended, exceeded⟩
    rw [ended, Option.map_some, exceeded] at succeeds
    cases succeeds
  have calls : plain.ownCalls f = 4 := by decide +kernel
  have ends := ends (by decide +kernel) (by decide +kernel) free
  rw [calls] at ends
  exact ⟨ends, by decide +kernel, by decide +kernel⟩

/-- The call of an empty function breaks a run that would succeed without it: where a pause cannot be computed, and
where the limit on calls is no number. -/
theorem drain_falters_at_call :
    let e (baseDelay limit : Json) : Engine :=
      { world := .ofBoard { size := 3, start := ⟨⟨0, 0⟩, .right, false⟩, goal := ⟨0, 0⟩, obstacles := [] }
        draws := .ofList [], observers := [], baseDelay, callLimit := .ofJson limit }
    let f := Json.str "f"
    let speed := Json.num (.float ⟨0x3ff0000000000000⟩)
    let plain (baseDelay limit : Json) := ((e baseDelay limit).begin [.call f] [(f, [])] speed (.bool false)).1.drain.1
    let flat (baseDelay limit : Json) :=
      ((e baseDelay limit).begin (inlinedBody f [] [.call f]) [(f, [])] speed (.bool false)).1.drain.1
    let falters (baseDelay limit : Json) (fault : RunFault) : Prop :=
      Relation.greater.check speed (.int 0) = .ok true ∧
        (plain baseDelay limit).cancelled = false ∧ (flat baseDelay limit).cancelled = false ∧
        (plain baseDelay limit).result?.map RunResult.ending = some (.crashed fault) ∧
        (flat baseDelay limit).result?.map RunResult.ending = some .success
    falters (.int (Nat.pow 2 1024)) (.int 50) (.pause .integerTooLarge) ∧
      falters (.int 0) (.str "many") (.order ⟨.atLeast, "int", "str"⟩) := by
  intro e f speed plain flat falters
  have above : Number.lt (.int 0) (.float ⟨0x3ff0000000000000⟩) = true := by decide +kernel
  have positive : Relation.greater.check speed (.int 0) = .ok true := congrArg Except.ok above
  constructor
  · exact ⟨positive, by decide +kernel, by decide +kernel, by decide +kernel, by decide +kernel⟩
  · exact ⟨positive, by decide +kernel, by decide +kernel, by decide +kernel, by decide +kernel⟩

end Engine

end GridRobot
