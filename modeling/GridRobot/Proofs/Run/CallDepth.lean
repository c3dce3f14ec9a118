import GridRobot.Proofs.Run.Calls
import GridRobot.Proofs.Run.Parallel

/-!
The limit on nested calls. It shows in one place only, at a call that it forbids. So a run that comes to no such call
goes the same way under any higher limit; and where every function calls only functions of a lower rank, no run comes
to one.
-/
namespace GridRobot

theorem RunFault.reason_ne_callDepth (fault : RunFault) : fault.reason ≠ "CallDepthExceeded" := by
  cases fault with
  | drawsExhausted | order fault | count kind | name fault => simp [reason]
  | pause fault => cases fault <;> simp [reason, PauseFault.reason]
  | value fault => cases fault <;> simp [reason, Json.IntegerFault.reason]

theorem Ending.reason?_callDepth {ending : Ending} :
    ending.reason? = some "CallDepthExceeded" ↔ ∃ name limit, ending = .failed (.callDepth name limit) := by
  constructor
  · intro exceeded
    cases ending with
    | success | aborted => cases exceeded
    | goalMissed => simp [reason?] at exceeded
    | failed failure =>
      cases failure with
      | collision cell => simp [reason?, RunFailure.reason] at exceeded
      | loopLimit => simp [reason?, RunFailure.reason] at exceeded
      | callDepth name limit => exact ⟨name, limit, rfl⟩
    | crashed fault => exact absurd (Option.some.inj exceeded) fault.reason_ne_callDepth
  · rintro ⟨name, limit, rfl⟩
    rfl

theorem CallLimit.halt_ofInt (given : Int) (name : Json) :
    (ofInt given).halt name = .failure (.callDepth name.text (ofInt given).text) := rfl

namespace Engine

/-- The run was ended by a call beyond the limit. -/
def ExceedsCallDepth (e : Engine) : Prop :=
  ∃ result, e.result? = some result ∧ result.ending.reason? = some "CallDepthExceeded"

variable {e next : Engine} {limit wide : CallLimit}

theorem ExceedsCallDepth.isActive (exceeds : e.ExceedsCallDepth) : e.isActive = false := by
  obtain ⟨result, ended, -⟩ := exceeds
  cases active : e.isActive with
  | false => rfl
  | true =>
    rw [result?_of_active active] at ended
    cases ended

theorem stop_exceeds_iff {halt : Halt} :
    (e.stop halt).ExceedsCallDepth ↔ ∃ name text, halt = .failure (.callDepth name text) := by
  have ended : (e.stop halt).result? = some ⟨halt.ending, e.world, e.executed⟩ := rfl
  unfold ExceedsCallDepth
  simp only [ended, Option.some.injEq, exists_eq_left', Ending.reason?_callDepth]
  cases halt with
  | failure failure => simp [Halt.ending]
  | fault fault => simp [Halt.ending]

theorem finish_exceeds_iff {ending : Ending} :
    (e.finish ending).ExceedsCallDepth ↔ ending.reason? = some "CallDepthExceeded" := by
  have ended : (e.finish ending).result? = some ⟨ending, e.world, e.executed⟩ := rfl
  simp [ExceedsCallDepth, ended]

theorem abort_free : ¬e.abort.ExceedsCallDepth := by
  simp [abort, finish_exceeds_iff, Ending.reason?]

theorem conclude_free : ¬e.conclude.ExceedsCallDepth := by
  unfold conclude
  split
  · simp [finish_exceeds_iff, Ending.reason?]
  · simp [finish_exceeds_iff, Ending.reason?]

theorem enter_free (node : Instruction) (frames : List Frame) : ¬(e.enter node frames).ExceedsCallDepth := by
  rw [enter_eq]
  split
  · exact abort_free
  · split
    · simp [crash, stop_exceeds_iff]
    · intro exceeds
      cases exceeds.isActive

theorem proceed_free (frames : List Frame) : ¬(e.proceed frames).ExceedsCallDepth := by
  fun_induction Engine.proceed e frames with
  | case1 e => exact conclude_free
  | case3 e node rest outer => exact enter_free node _
  | case5 e | case8 e => exact abort_free
  | case9 e | case12 e => simp [crash, fail, stop_exceeds_iff]
  | case2 e _ ih | case4 e _ _ ih | case6 e _ _ _ _ _ _ ih | case7 e _ _ _ _ _ ih => exact ih
  | case10 e _ _ _ _ _ _ _ _ ih | case11 e _ _ _ _ _ _ _ _ _ _ ih => exact ih

theorem perform_exceeds {node : Instruction} {frames : List Frame} {last : Engine}
    (performed : e.perform node frames = .ended last) (exceeds : last.ExceedsCallDepth) :
    ∃ name body, node = .call name ∧ e.functions.look name = .ok (some body) ∧
      e.callLimit.depth ≤ Frame.callDepth frames := by
  revert performed
  fun_cases Engine.perform node frames e with rintro ⟨⟩
  | case19 name body found full => exact ⟨name, body, rfl, found, full⟩
  | _ => simp [crash, fail, stop_exceeds_iff] at exceeds

theorem advance_exceeds (active : e.isActive = true) (exceeds : e.advance.ExceedsCallDepth) :
    ∃ suspension frames name body, e.phase = .active (some suspension) frames ∧ e.cancelled = false ∧
      suspension.node = .call name ∧ e.functions.look name = .ok (some body) ∧
      e.callLimit.depth ≤ Frame.callDepth frames := by
  revert exceeds
  fun_cases Engine.advance e with intro exceeds
  | case1 frames phase => exact absurd exceeds (proceed_free frames)
  | case2 suspension frames phase cancelled => exact absurd exceeds abort_free
  | case3 suspension frames phase running next after performed => exact absurd exceeds (proceed_free after)
  | case4 suspension frames phase running last performed =>
    obtain ⟨name, body, called, found, full⟩ := perform_exceeds performed exceeds
    exact ⟨suspension, frames, name, body, phase, by simpa using running, called, found, full⟩
  | case5 phase | case6 result phase => simp [isActive, phase] at active

/-! ### A higher limit -/

def allowing (limit : CallLimit) (e : Engine) : Engine := { e with callLimit := limit }

theorem allowing_log (note : Note) (e : Engine) : (e.allowing wide).log note = (e.log note).allowing wide := rfl

theorem allowing_stop (halt : Halt) (e : Engine) : (e.allowing wide).stop halt = (e.stop halt).allowing wide := rfl

theorem allowing_abort (e : Engine) : (e.allowing wide).abort = e.abort.allowing wide := rfl

theorem allowing_conclude (e : Engine) : (e.allowing wide).conclude = e.conclude.allowing wide := by
  have same : (e.allowing wide).world = e.world := rfl
  unfold conclude
  rw [same]
  split
  · rfl
  · rfl

theorem allowing_announce (node : Instruction) (e : Engine) :
    (e.allowing wide).announce node = (e.announce node).allowing wide := by
  unfold announce
  change (if e.isInteractive then _ else _) = (if e.isInteractive then _ else _ : Engine).allowing wide
  split
  · rfl
  · rfl

theorem allowing_enter (node : Instruction) (frames : List Frame) (e : Engine) :
    (e.allowing wide).enter node frames = (e.enter node frames).allowing wide := by
  have cancelled : (e.allowing wide).cancelled = e.cancelled := rfl
  have delay : ((e.announce node).allowing wide).delay = (e.announce node).delay := rfl
  rw [enter_eq, enter_eq, cancelled, allowing_announce, delay]
  split
  · rfl
  · split
    · rfl
    · rfl

theorem isParallel_allowing (wide : CallLimit) : IsParallel fun a b => b = a.allowing wide where
  world same := by rw [same, allowing]
  draws same := by rw [same, allowing]
  draw same draws := by rw [same, allowing, allowing]
  log same note := by rw [same, allowing_log]

theorem allowing_proceed (e : Engine) (frames : List Frame) :
    (e.allowing wide).proceed frames = (e.proceed frames).allowing wide := by
  have along : ProceedsTo id (fun a b => b = a.allowing wide) fun a b => b = a.allowing wide :=
    { isParallel_allowing wide with
      nothing := rfl
      cancelled := fun same => by rw [same, allowing]
      conclude := fun same => by rw [same, allowing_conclude]
      abort := fun same => by rw [same, allowing_abort]
      stop := fun same halt => by rw [same, allowing_stop]
      enter := fun same node rest outer => by rw [same, proceed_block_same, allowing_enter] }
  exact along.proceed_same rfl frames

def Progress.allowing (limit : CallLimit) : Progress → Progress
  | .onward e frames => .onward (e.allowing limit) frames
  | .ended e => .ended (e.allowing limit)

theorem allowing_test {condition : Condition} {value : Except RunFault Bool}
    (tested : e.test condition = (next, value)) : (e.allowing wide).test condition = (next.allowing wide, value) := by
  obtain ⟨other, same, rfl⟩ := (isParallel_allowing wide).test rfl tested
  exact same

theorem allowing_perform (node : Instruction) (frames : List Frame) (wider : e.callLimit.depth ≤ wide.depth) :
    (e.allowing wide).perform node frames = (e.perform node frames).allowing wide ∨
      ∃ name, e.perform node frames = .ended (e.stop (e.callLimit.halt name)) := by
  -- Only a call looks at the limit.
  cases node with
  | call name =>
    have look : (e.allowing wide).functions.look name = e.functions.look name := rfl
    have room : (e.allowing wide).callLimit = wide := rfl
    simp only [perform, look, room]
    cases e.functions.look name with
    | error fault => exact .inl rfl
    | ok found =>
      cases found with
      | none => exact .inl rfl
      | some body =>
        by_cases full : e.callLimit.depth ≤ Frame.callDepth frames
        · simp only [if_pos full]
          exact .inr ⟨name, rfl⟩
        -- Where the lower limit leaves room, so does the higher one.
        · have more : ¬wide.depth ≤ Frame.callDepth frames := by omega
          simp only [if_neg full, if_neg more]
          exact .inl rfl
  | ifThen condition body | ifElse condition thenBody elseBody =>
    left
    rcases tested : e.test condition with ⟨next, value⟩
    simp only [perform, tested, allowing_test tested]
    cases value with
    | error fault => rfl
    | ok value => rfl
  | move =>
    left
    have same : (e.allowing wide).world = e.world := rfl
    simp only [perform, same]
    cases e.world.move with
    | error collision => rfl
    | ok world => rfl
  | assign r value =>
    left
    simp only [perform]
    cases value.toInteger with
    | error fault => rfl
    | ok n => rfl
  | repeatTimes count body =>
    left
    simp only [perform]
    cases Repetition.announced count with
    | error fault => rfl
    | ok shown =>
      dsimp only
      cases Repetition.ofAnnounced shown with
      | error fault => rfl
      | ok loop => rfl
  | whileDo condition body =>
    left
    simp only [perform, Progress.allowing, announceLoop]
    split
    · rfl
    · rfl
  | turnLeft | turnRight | increment | decrement | define | unknown | blank => exact .inl rfl

theorem allowing_advance (wider : e.callLimit.depth ≤ wide.depth) :
    (e.allowing wide).advance = e.advance.allowing wide ∨ ∃ name, e.advance = e.stop (e.callLimit.halt name) := by
  have phase : (e.allowing wide).phase = e.phase := rfl
  have cancelled : (e.allowing wide).cancelled = e.cancelled := rfl
  cases here : e.phase with
  | idle | completed result =>
    left
    rw [advance, advance, phase, here]
  | active pending frames =>
    cases pending with
    | none =>
      left
      rw [advance, advance, phase, here]
      exact allowing_proceed e frames
    | some suspension =>
      rw [advance, advance, phase, here]
      simp only [cancelled]
      by_cases aborted : e.cancelled = true
      · simp only [if_pos aborted]
        exact .inl (allowing_abort e)
      · simp only [if_neg aborted]
        rcases allowing_perform suspension.node frames wider with same | ⟨name, full⟩
        · left
          rw [same]
          cases e.perform suspension.node frames with
          | onward next after => exact allowing_proceed next after
          | ended last => rfl
        · right
          exact ⟨name, by rw [full]⟩

theorem allowing_meddle (meddling : Meddling) (e : Engine) :
    (e.allowing wide).meddle meddling = (e.meddle meddling).allowing wide := by
  have world : (e.allowing wide).world = e.world := rfl
  have active : (e.allowing wide).isActive = e.isActive := rfl
  cases meddling with
  | interactive | cancel | observe | log => rfl
  | register name value =>
    simp only [meddle, world]
    cases e.world.registers.write name value with
    | error fault => rfl
    | ok registers => rfl
  | begin program functions speed interactive =>
    simp only [meddle, begin, active]
    split
    · rfl
    · split <;> rfl
  | setWorld world =>
    simp only [meddle, setWorld, active]
    cases e.isActive with
    | true => rfl
    | false => rfl

theorem allowing_visit (visit : List Meddling) (e : Engine) :
    visit.foldl meddle (e.allowing wide) = (visit.foldl meddle e).allowing wide := by
  induction visit generalizing e with
  | nil => rfl
  | cons meddling rest ih => rw [List.foldl_cons, List.foldl_cons, allowing_meddle, ih]

theorem allowing_begin (program : Body) (functions : FunctionTable) (speed interactive : Json) (e : Engine) :
    (e.allowing wide).begin program functions speed interactive =
      ((e.begin program functions speed interactive).1.allowing wide,
        (e.begin program functions speed interactive).2) := by
  have active : (e.allowing wide).isActive = e.isActive := rfl
  simp only [begin, active]
  split
  · rfl
  · split <;> rfl

/-- The one advance that a higher limit may change is the one that comes to a call beyond the lower. -/
theorem allowing_advance_of_free {given more : Int} (limited : e.callLimit = .ofInt given) (wider : given ≤ more)
    (free : ¬e.advance.ExceedsCallDepth) :
    (e.allowing (.ofInt more)).advance = e.advance.allowing (.ofInt more) := by
  have deeper : e.callLimit.depth ≤ (CallLimit.ofInt more).depth := by
    rw [limited, CallLimit.depth_ofInt, CallLimit.depth_ofInt]
    exact Int.toNat_le_toNat wider
  rcases allowing_advance deeper with same | ⟨name, full⟩
  · exact same
  · rw [full, limited, CallLimit.halt_ofInt] at free
    exact absurd (stop_exceeds_iff.mpr ⟨_, _, rfl⟩) free

theorem allowing_resume (advanced : (e.allowing wide).advance = e.advance.allowing wide) :
    (e.allowing wide).resume.2 = e.resume.2 := by
  have active : (e.allowing wide).isActive = e.isActive := rfl
  have fault : (e.advance.allowing wide).fault? = e.advance.fault? := rfl
  unfold resume
  rw [active, advanced]
  split
  · dsimp only
    rw [fault]
    split
    · rfl
    · rfl
  · rfl

section Attended

variable {given more : Int} {visits : Nat → List Meddling} (placed : e.IsPlaced (.ofInt given)) (wider : given ≤ more)
  (free : ∀ n, ¬(e.attend visits n).ExceedsCallDepth)
include placed wider free

theorem allowing_attend (n : Nat) :
    (e.allowing (.ofInt more)).attend visits n = (e.attend visits n).allowing (.ofInt more) := by
  induction n with
  | zero => rfl
  | succ n ih =>
    have still : ((e.attend visits n).allowing (.ofInt more)).isActive = (e.attend visits n).isActive := rfl
    cases active : (e.attend visits n).isActive with
    | false => rw [attend_succ_of_over visits active, attend_succ_of_over visits (by rw [ih, still, active]), ih]
    | true =>
      have same := visit_sameRun (visits n) active
      have limited := same.callLimit.trans (attend_isPlaced placed visits n).sameLimit
      have quiet := free (n + 1)
      rw [attend_succ_of_active visits active] at quiet ⊢
      rw [attend_succ_of_active visits (by rw [ih, still, active]), ih, allowing_visit]
      exact allowing_advance_of_free limited wider quiet

theorem allowing_answer {n : Nat} (active : (e.attend visits n).isActive = true) :
    (e.allowing (.ofInt more)).answer visits n = e.answer visits n := by
  have same := visit_sameRun (visits n) active
  have limited := same.callLimit.trans (attend_isPlaced placed visits n).sameLimit
  have quiet := free (n + 1)
  rw [attend_succ_of_active visits active] at quiet
  have advanced := allowing_advance_of_free limited wider quiet
  rw [answer, answer, allowing_attend placed wider free n, allowing_visit, allowing_resume advanced]

end Attended

/-- A run that never comes to a call beyond its limit goes the same way under any higher limit: whatever its host does
meanwhile, the engine differs in its limit and in nothing else, and every advance gives the same answer. -/
theorem attend_higher_limit {first : Engine} {given more : Int} {program : Body} {functions : FunctionTable}
    {speed interactive : Json} (limited : e.callLimit = .ofInt given) (wider : given ≤ more)
    (begun : e.begin program functions speed interactive = (first, .ok ())) (visits : Nat → List Meddling)
    (free : ∀ n, ¬(first.attend visits n).ExceedsCallDepth) :
    ∃ other, (e.allowing (.ofInt more)).begin program functions speed interactive = (other, .ok ()) ∧
      ∀ n, other.attend visits n = (first.attend visits n).allowing (.ofInt more) ∧
        ((first.attend visits n).isActive = true → other.answer visits n = first.answer visits n) := by
  have placed := begin_isPlaced limited begun
  refine ⟨first.allowing (.ofInt more), ?_, ?_⟩
  · rw [allowing_begin, begun]
  · intro n
    constructor
    · exact allowing_attend placed wider free n
    · intro active
      exact allowing_answer placed wider free active

/-- A run that calls two functions deep goes the same way under the limits two and seven, while its host cuts in. -/
theorem attend_higher_limit_nested :
    let e : Engine :=
      { world := .ofBoard { size := 3, start := ⟨⟨0, 0⟩, .right, false⟩, goal := ⟨2, 0⟩, obstacles := [] }
        draws := .ofList [], observers := [.console "Run" true], baseDelay := .int 0, callLimit := .ofInt 2 }
    let functions : FunctionTable := [(.str "f", [.move, .call (.str "g")]), (.str "g", [.increment .r1])]
    let program : Body := [.repeatTimes (.int 2) [.call (.str "f")]]
    let visits (n : Nat) : List Meddling := [.interactive (.bool (n % 2 == 0)), .register (.str "R2") (.int n)]
    let first := e.armed program functions (.int 5) (.bool true)
    (first.attend visits 10).result?.map RunResult.ending = some .success ∧
      ∃ other, (e.allowing (.ofInt 7)).begin program functions (.int 5) (.bool true) = (other, .ok ()) ∧
        other.attend visits 10 = (first.attend visits 10).allowing (.ofInt 7) ∧
        other.answer visits 4 = first.answer visits 4 := by
  intro e functions program visits first
  have positive : Relation.greater.check (.int 5) (.int 0) = .ok true := rfl
  have begun := begin_eq_armed (e := e) program functions (.bool true) rfl positive
  have ending : (first.attend visits 10).result?.map RunResult.ending = some .success := by decide +kernel
  have going : (first.attend visits 4).isActive = true := by decide +kernel
  have finished : (first.attend visits 10).isActive = false := by decide +kernel
  have free (n : Nat) : ¬(first.attend visits n).ExceedsCallDepth := by
    intro exceeds
    -- What a run ends with it ends with once, so the tenth advance would show it.
    have same : first.attend visits n = first.attend visits 10 := by
      rcases Nat.le_total n 10 with early | late
      · exact (attend_of_over visits early exceeds.isActive).symm
      · exact attend_of_over visits late finished
    obtain ⟨result, ended, exceeded⟩ := exceeds
    rw [← same, ended] at ending
    cases Option.some.inj ending ▸ exceeded
  have wider : (2 : Int) ≤ 7 := by decide
  obtain ⟨other, accepted, course⟩ := attend_higher_limit rfl wider begun visits free
  exact ⟨ending, other, accepted, (course 10).1, (course 4).2 going⟩

end Engine

/-! ### Ranked functions -/

namespace FunctionTable

/-- A body calls a function that is defined, in itself or anywhere below. -/
def Calls (functions : FunctionTable) (body : Body) (name : Json) : Prop :=
  .call name ∈ Instruction.walk body ∧ ∃ inner, functions.look name = .ok (some inner)

/-- Whatever a function calls has a lower rank than the function. -/
def IsRanked (functions : FunctionTable) (rank : Json → Nat) : Prop :=
  ∀ name body, functions.look name = .ok (some body) → ∀ inner, functions.Calls body inner → rank inner < rank name

/-- With so many calls active, each call from a body leaves the calls of lower ranks below the limit. -/
def HasRoom (functions : FunctionTable) (rank : Json → Nat) (depth active : Nat) (body : Body) : Prop :=
  ∀ name, functions.Calls body name → rank name + active < depth

namespace HasRoom

variable {functions : FunctionTable} {rank : Json → Nat} {depth active : Nat} {node : Instruction} {body rest : Body}

theorem nil : functions.HasRoom rank depth active [] := by
  rintro name ⟨called, -⟩
  cases called

theorem of_subset (room : functions.HasRoom rank depth active body)
    (subset : ∀ inner ∈ Instruction.walk rest, inner ∈ Instruction.walk body) :
    functions.HasRoom rank depth active rest :=
  fun name calls => room name ⟨subset _ calls.1, calls.2⟩

theorem head (room : functions.HasRoom rank depth active (node :: rest)) :
    functions.HasRoom rank depth active [node] := by
  apply room.of_subset
  intro inner member
  simp only [Instruction.walk, List.append_nil] at member
  exact List.mem_append_left _ member

theorem tail (room : functions.HasRoom rank depth active (node :: rest)) : functions.HasRoom rank depth active rest :=
  room.of_subset fun _ member => List.mem_append_right _ member

theorem below (room : functions.HasRoom rank depth active [node]) (member : body ∈ node.bodies) :
    functions.HasRoom rank depth active body := by
  apply room.of_subset
  intro inner inside
  simp only [Instruction.walk, List.append_nil]
  exact Instruction.mem_nodes.mpr (.inr ⟨body, member, inside⟩)

theorem call {name : Json} (room : functions.HasRoom rank depth active [.call name])
    (found : functions.look name = .ok (some body)) : rank name + active < depth :=
  room name ⟨by simp [Instruction.walk, Instruction.nodes], body, found⟩

theorem called {name : Json} (room : functions.HasRoom rank depth active [.call name])
    (found : functions.look name = .ok (some body)) (ranked : functions.IsRanked rank) :
    functions.HasRoom rank depth (active + 1) body := by
  intro inner calls
  have lower := ranked name body found inner calls
  have fits := room.call found
  omega

end HasRoom

end FunctionTable

namespace Frame

def body : Frame → Body
  | .block rest => rest
  | .repeating _ _ body | .looping _ body _ => body
  | .calling _ => []

def HaveRoom (functions : FunctionTable) (rank : Json → Nat) (depth : Nat) : List Frame → Prop
  | [] => True
  | frame :: outer =>
    functions.HasRoom rank depth (callDepth outer) frame.body ∧ HaveRoom functions rank depth outer

end Frame

theorem Frame.callDepth_calling (name : Json) (outer : List Frame) :
    callDepth (.calling name :: outer) = callDepth outer + 1 := List.countP_cons_of_pos rfl

def Phase.agenda : Phase → List Frame
  | .active (some suspension) frames => .block [suspension.node] :: frames
  | .active none frames => frames
  | .idle | .completed _ => []

namespace Engine

variable {functions : FunctionTable} {rank : Json → Nat} {depth : Nat} {e next : Engine}

theorem attend_functions (visits : Nat → List Meddling) (n : Nat) :
    (e.attend visits n).functions = e.functions := by
  apply attend_keeps visits (P := fun reached => reached.functions = e.functions)
  · intro reached next same kept
    exact same.functions.trans kept
  · intro reached kept
    exact (advance_table reached).1.trans kept
  · rfl

/-- There is room for all calls that a run may come to. -/
def HasRoom (functions : FunctionTable) (rank : Json → Nat) (depth : Nat) (e : Engine) : Prop :=
  Frame.HaveRoom functions rank depth e.phase.agenda

namespace HasRoom

theorem of_over (finished : e.isActive = false) : e.HasRoom functions rank depth := by
  unfold HasRoom
  unfold isActive at finished
  cases phase : e.phase with
  | idle | completed result => trivial
  | active pending frames => simp [phase] at finished

theorem conclude : e.conclude.HasRoom functions rank depth := by
  apply of_over
  unfold Engine.conclude
  split
  · rfl
  · rfl

theorem enter {node : Instruction} {frames : List Frame}
    (room : Frame.HaveRoom functions rank depth (.block [node] :: frames)) :
    (e.enter node frames).HasRoom functions rank depth := by
  rw [enter_eq]
  split
  · exact of_over rfl
  · split
    · exact of_over rfl
    · exact room

theorem proceed {frames : List Frame} (room : Frame.HaveRoom functions rank depth frames) :
    (e.proceed frames).HasRoom functions rank depth := by
  fun_induction Engine.proceed e frames with
  | case1 e => exact conclude
  | case3 e node rest outer =>
    obtain ⟨here, there⟩ := room
    exact enter ⟨here.head, here.tail, there⟩
  | case5 e | case8 e | case9 e | case12 e => exact of_over rfl
  | case2 e outer ih => exact ih room.2
  | case4 e name outer ih => exact ih room.2
  | case6 e loop done body outer more running ih => exact ih ⟨room.1, room⟩
  | case7 e loop done body outer finished ih => exact ih room.2
  | case10 e condition body done outer running next more tested ih => exact ih ⟨room.1, room⟩
  | case11 e condition body done outer running next value tested more low ih => exact ih room.2

theorem perform (same : e.functions = functions) (ranked : functions.IsRanked rank) {node : Instruction}
    {frames after : List Frame} (room : Frame.HaveRoom functions rank depth (.block [node] :: frames))
    (performed : e.perform node frames = .onward next after) : Frame.HaveRoom functions rank depth after := by
  obtain ⟨here, there⟩ := room
  revert performed
  fun_cases Engine.perform node frames e with rintro ⟨⟩
  | case11 count body => exact ⟨here.below (List.mem_singleton.mpr rfl), there⟩
  | case13 condition body next value tested =>
    cases value with
    | true => exact ⟨here.below (List.mem_singleton.mpr rfl), there⟩
    | false => exact there
  | case15 condition thenBody elseBody next value tested =>
    cases value with
    | true => exact ⟨here.below List.mem_cons_self, there⟩
    | false => exact ⟨here.below (List.mem_cons_of_mem _ List.mem_cons_self), there⟩
  | case16 condition body => exact ⟨here.below (List.mem_singleton.mpr rfl), there⟩
  | case20 name body found free =>
    rw [same] at found
    refine ⟨?_, .nil, there⟩
    rw [Frame.callDepth_calling]
    exact here.called found ranked
  | _ => exact there

theorem advance (room : e.HasRoom functions rank depth) (same : e.functions = functions)
    (ranked : functions.IsRanked rank) : e.advance.HasRoom functions rank depth := by
  unfold HasRoom at room
  fun_cases Engine.advance e with
  | case1 frames phase =>
    rw [phase] at room
    exact proceed room
  | case3 suspension frames phase running next after performed =>
    rw [phase] at room
    exact proceed (perform same ranked room performed)
  | case4 suspension frames phase running last performed =>
    obtain ⟨mid, halt, -, rfl⟩ := perform_ended performed
    exact of_over rfl
  | case2 => exact of_over rfl
  | case5 phase | case6 result phase => exact room

theorem attend (room : e.HasRoom functions rank depth) (same : e.functions = functions)
    (ranked : functions.IsRanked rank) (visits : Nat → List Meddling) (n : Nat) :
    (e.attend visits n).HasRoom functions rank depth := by
  have kept : (e.attend visits n).functions = functions ∧ (e.attend visits n).HasRoom functions rank depth := by
    apply attend_keeps visits (P := fun reached => reached.functions = functions ∧ reached.HasRoom functions rank depth)
    · intro reached next same kept
      unfold HasRoom
      rw [same.functions, same.phase]
      exact kept
    · intro reached kept
      exact ⟨(advance_table reached).1.trans kept.1, kept.2.advance kept.1 ranked⟩
    · exact ⟨same, room⟩
  exact kept.2

theorem fits {suspension : Suspension} {frames : List Frame} {name : Json} {body : Body}
    (room : e.HasRoom functions rank depth) (phase : e.phase = .active (some suspension) frames)
    (called : suspension.node = .call name) (found : functions.look name = .ok (some body)) :
    Frame.callDepth frames < depth := by
  unfold HasRoom at room
  rw [phase, Phase.agenda, called] at room
  have below := room.1.call found
  omega

end HasRoom

theorem exceeding_call {given : Int} (active : e.isActive = true) (placed : e.IsPlaced (.ofInt given))
    {visits : Nat → List Meddling} {n : Nat} (exceeds : (e.attend visits n).ExceedsCallDepth) :
    ∃ m < n, ∃ suspension frames name body, (e.attend visits m).phase = .active (some suspension) frames ∧
      suspension.node = .call name ∧ e.functions.look name = .ok (some body) ∧
      Frame.callDepth frames = given.toNat ∧ ((visits m).foldl meddle (e.attend visits m)).cancelled = false ∧
      e.attend visits n = e.attend visits (m + 1) := by
  obtain ⟨m, less, going, finished⟩ := exists_last visits active exceeds.isActive
  have ends := attend_of_over visits (Nat.succ_le_of_lt less) finished
  rw [ends, attend_succ_of_active visits going] at exceeds
  have same := visit_sameRun (visits m) going
  obtain ⟨suspension, frames, name, body, phase, running, called, found, full⟩ :=
    advance_exceeds (same.isActive.trans going) exceeds
  have reached := attend_isPlaced placed visits m
  rw [same.phase] at phase
  rw [same.functions, attend_functions] at found
  rw [same.callLimit, reached.sameLimit, CallLimit.depth_ofInt] at full
  have within : Frame.callDepth frames ≤ given.toNat := callDepth_of_phase phase ▸ reached.depth
  exact ⟨m, less, suspension, frames, name, body, phase, called, found, Nat.le_antisymm within full, running, ends⟩

/-- Where each function calls only functions of a lower rank, and the program those that rank below the limit, no run
exceeds the limit on calls. And a run exceeds it only where it executes the call of a function that is defined, with as
many calls active as the limit allows. -/
theorem ranked_calls_fit {first : Engine} {given : Int} {program : Body} {functions : FunctionTable}
    {speed interactive : Json} (limited : e.callLimit = .ofInt given)
    (begun : e.begin program functions speed interactive = (first, .ok ())) (visits : Nat → List Meddling) :
    (∀ rank : Json → Nat, functions.IsRanked rank →
        (∀ name, functions.Calls program name → (rank name : Int) < given) →
        ∀ n, ¬(first.attend visits n).ExceedsCallDepth) ∧
      ∀ n, (first.attend visits n).ExceedsCallDepth →
        ∃ m < n, ∃ suspension name body, (first.attend visits m).pending? = some suspension ∧
          suspension.node = .call name ∧ functions.look name = .ok (some body) ∧
          ((first.attend visits m).callDepth : Int) = max given 0 ∧
          ((visits m).foldl meddle (first.attend visits m)).cancelled = false ∧
          first.attend visits n = first.attend visits (m + 1) := by
  have placed := begin_isPlaced limited begun
  obtain rfl := armed_of_begin begun
  constructor
  · intro rank ranked below n exceeds
    obtain ⟨m, -, suspension, frames, name, body, phase, called, found, full, -⟩ := exceeding_call rfl placed exceeds
    -- At the start no call is active, so the whole limit is left for ranks.
    have room : (e.armed program functions speed interactive).HasRoom functions rank given.toNat := by
      refine ⟨?_, trivial⟩
      intro name calls
      have less := below name calls
      change rank name + 0 < given.toNat
      omega
    -- Ranks and active calls together stay below the limit, which leaves nothing for this call.
    have fits := (room.attend rfl ranked visits m).fits phase called found
    omega
  · intro n exceeds
    obtain ⟨m, less, suspension, frames, name, body, phase, called, found, full, running, ends⟩ :=
      exceeding_call rfl placed exceeds
    refine ⟨m, less, suspension, name, body, ?_, called, found, ?_, running, ends⟩
    · rw [pending?, phase]
    · rw [callDepth_of_phase phase, full]
      exact Int.toNat_eq_max given

/-- A function calls another in a loop. The limit two is just high enough for both; under the limit one the first call
of the other is beyond it. -/
theorem ranked_calls_fit_nested :
    let e : Engine :=
      { world := .ofBoard { size := 3, start := ⟨⟨0, 0⟩, .right, false⟩, goal := ⟨2, 0⟩, obstacles := [] }
        draws := .ofList [], observers := [], baseDelay := .int 0, callLimit := .ofInt 2 }
    let functions : FunctionTable :=
      [(.str "f", [.repeatTimes (.int 2) [.call (.str "g")]]), (.str "g", [.move, .call (.str "none")])]
    let program : Body := [.ifThen (.sensor .always) [.call (.str "f")]]
    let alone (_ : Nat) : List Meddling := []
    let first := e.armed program functions (.int 5) (.bool false)
    let narrow := (e.allowing (.ofInt 1)).armed program functions (.int 5) (.bool false)
    (first.attend alone 5).callDepth = 2 ∧ (∀ n, ¬(first.attend alone n).ExceedsCallDepth) ∧
      (narrow.attend alone 5).ExceedsCallDepth ∧ ∃ m < 5, (narrow.attend alone m).callDepth = 1 := by
  intro e functions program alone first narrow
  have positive : Relation.greater.check (.int 5) (.int 0) = .ok true := rfl
  have begun := begin_eq_armed (e := e) program functions (.bool false) rfl positive
  let rank (name : Json) : Nat := if name.same (.str "f") then 1 else 0
  have ranked : functions.IsRanked rank := by
    rintro name body found inner ⟨member, other, defined⟩
    cases name with
    | str text =>
      simp only [functions, FunctionTable.look, FunctionTable.body?, Json.key, Json.same, Except.map,
        List.find?] at found
      split at found
      · rename_i same
        obtain rfl : "f" = text := eq_of_beq same
        cases found
        obtain rfl : inner = .str "g" := by simpa [Instruction.walk, Instruction.nodes] using member
        decide
      · split at found
        · cases found
          obtain rfl : inner = .str "none" := by simpa [Instruction.walk, Instruction.nodes] using member
          cases defined
        · cases found
    | _ => cases found
  have below (name : Json) (calls : functions.Calls program name) : (rank name : Int) < 2 := by
    dsimp only [rank]
    split <;> decide
  have exceeds : (narrow.attend alone 5).ExceedsCallDepth := by
    have ended : (narrow.attend alone 5).result?.bind (·.ending.reason?) = some "CallDepthExceeded" := by decide +kernel
    exact Option.bind_eq_some_iff.mp ended
  have begun' := begin_eq_armed (e := e.allowing (.ofInt 1)) program functions (.bool false) rfl positive
  obtain ⟨m, less, -, -, -, -, -, -, full, -⟩ := (ranked_calls_fit rfl begun' alone).2 5 exceeds
  exact ⟨by decide +kernel, (ranked_calls_fit rfl begun alone).1 rank ranked below, exceeds, m, less,
    Int.ofNat_inj.mp full⟩

end Engine

end GridRobot
