import GridRobot.Proofs.Run.Calls
import GridRobot.Proofs.Run.Effect

/-!
The shape of a run's record. While a run goes on, it reports more (`ReportsOn`), and never an end. An `advance` that
does not suspend has closed the run (`Closes`): with a note as serious as the outcome, and then with the result. So the
record of a run that is over has one end, the last of its events, and an instruction entered for each suspension that
its host got.
-/
namespace GridRobot

def Ending.severity : Ending → Severity
  | .success => .success
  | .aborted => .warning
  | _ => .error

theorem Halt.severity_note (halt : Halt) : halt.note.severity = halt.ending.severity := by
  cases halt with
  | failure failure => rfl
  | fault fault => rfl

namespace Engine

variable {e mid next : Engine}

def ReportsOn (e next : Engine) : Prop :=
  ∃ more, next.events = more ++ e.events ∧ ∀ event ∈ more, event.hook ≠ .ended

namespace ReportsOn

theorem of_same (same : next.events = e.events) : e.ReportsOn next := ⟨[], same, by simp⟩

theorem emit {event : Event} (further : event.hook ≠ .ended) (e : Engine) : e.ReportsOn (e.emit event) :=
  ⟨[event], rfl, by simpa using further⟩

theorem trans (first : e.ReportsOn mid) (second : mid.ReportsOn next) : e.ReportsOn next := by
  obtain ⟨more, recorded, further⟩ := first
  obtain ⟨most, recorded', further'⟩ := second
  refine ⟨most ++ more, by rw [recorded', recorded, List.append_assoc], ?_⟩
  intro event member
  rcases List.mem_append.mp member with late | early
  · exact further' event late
  · exact further event early

theorem logAs (note : Note) (severity : Severity) (e : Engine) : e.ReportsOn (e.logAs note severity) :=
  emit (by simp [Event.hook]) e

theorem of_deliberates (quiet : e.Deliberates next) : e.ReportsOn next := by
  induction quiet with
  | start => exact of_same rfl
  | log note _ ih => exact ih.trans (logAs _ _ _)
  | draw draws _ ih => exact ih.trans (of_same rfl)

theorem announce (node : Instruction) (e : Engine) : e.ReportsOn (e.announce node) := by
  have entered : e.ReportsOn ({ e with executed := e.executed + 1 }.emit (.entered node)) :=
    (of_same rfl).trans (emit (by simp [Event.hook]) { e with executed := e.executed + 1 })
  unfold Engine.announce
  dsimp only
  split
  · exact entered.trans (logAs _ _ _)
  · exact entered

theorem perform {node : Instruction} {frames after : List Frame}
    (performed : e.perform node frames = .onward next after) : e.ReportsOn next := by
  have written (world : World) (note : Note) : e.ReportsOn ({ e with world }.log note) :=
    logAs note note.severity { e with world }
  rcases perform_onward performed with quiet | ⟨world, note, rfl⟩ | ⟨registers, note, rfl⟩
  · exact of_deliberates quiet
  · exact (written world note).trans (emit (by simp [Event.hook]) _)
  · exact (written _ note).trans (emit (by simp [Event.hook]) _)

theorem meddle (active : e.isActive = true) (meddling : Meddling) : e.ReportsOn (e.meddle meddling) := by
  cases meddling with
  | interactive | cancel | observe => exact of_same rfl
  | register name value =>
    unfold Engine.meddle
    dsimp only
    split
    · exact of_same rfl
    · exact of_same rfl
  | begin program functions speed interactive =>
    rw [meddle_begin active]
    exact logAs _ _ e
  | setWorld world =>
    rw [meddle_setWorld active]
    exact of_same rfl
  | log content severity => exact logAs _ _ e

theorem visit (visit : List Meddling) (active : e.isActive = true) : e.ReportsOn (visit.foldl Engine.meddle e) := by
  apply visit_keeps active
  · intro reached m _ still reports
    exact reports.trans (meddle still m)
  · exact of_same rfl

end ReportsOn

/-- The run has been closed: a note as serious as the outcome, and then the result. Nothing more was entered before,
unless a pause could not be computed. -/
inductive Closes (e : Engine) : Engine → Prop
  | ended {mid : Engine} {closing : Note} {ending : Ending} (reports : e.ReportsOn mid)
      (fits : closing.severity = ending.severity)
      (entered : mid.entered = e.entered ∨
        ∃ fault node, ending = .crashed (.pause fault) ∧ mid.entered = e.entered ++ [node]) :
      Closes e ((mid.log closing).finish ending)

def GoesOn (e next : Engine) : Prop := (next.isActive = true ∧ e.ReportsOn next) ∨ e.Closes next

namespace GoesOn

theorem closed (ending : Ending) {closing : Note} (fits : closing.severity = ending.severity) (e : Engine) :
    e.GoesOn ((e.log closing).finish ending) := .inr (.ended (.of_same rfl) fits (.inl rfl))

theorem stop (halt : Halt) (e : Engine) : e.GoesOn (e.stop halt) := closed halt.ending halt.severity_note e

theorem abort (e : Engine) : e.GoesOn e.abort := closed .aborted rfl e

theorem conclude (e : Engine) : e.GoesOn e.conclude := by
  unfold Engine.conclude
  split
  · exact closed .success rfl e
  · exact closed .goalMissed rfl e

theorem enter (node : Instruction) (frames : List Frame) (e : Engine) : e.GoesOn (e.enter node frames) := by
  have reports := ReportsOn.announce node e
  rw [enter_eq]
  split
  · exact abort e
  · split
    · rename_i fault failed
      exact .inr (.ended reports rfl (.inr ⟨fault, node, rfl, announce_entered node e⟩))
    · exact .inl ⟨rfl, reports.trans (.of_same rfl)⟩

theorem after (reports : e.ReportsOn mid) (entered : mid.entered = e.entered) (goesOn : mid.GoesOn next) :
    e.GoesOn next := by
  rcases goesOn with ⟨active, more⟩ | ⟨more, fits, nodes⟩
  · exact .inl ⟨active, reports.trans more⟩
  · rw [entered] at nodes
    exact .inr (.ended (reports.trans more) fits nodes)

theorem proceed (frames : List Frame) (e : Engine) : e.GoesOn (e.proceed frames) := by
  rcases proceed_cases e frames with ⟨mid, quiet, ends | ⟨-, ends⟩ | ⟨halt, ends⟩ | ⟨node, after, ends⟩⟩
  · exact ends ▸ (conclude mid).after (.of_deliberates quiet) quiet.entered
  · exact ends ▸ (abort mid).after (.of_deliberates quiet) quiet.entered
  · exact ends ▸ (stop halt mid).after (.of_deliberates quiet) quiet.entered
  · exact ends ▸ (enter node after mid).after (.of_deliberates quiet) quiet.entered

theorem advance (active : e.isActive = true) : e.GoesOn e.advance := by
  fun_cases Engine.advance e with
  | case1 frames phase => exact proceed frames e
  | case2 suspension frames phase cancelled => exact abort e
  | case3 suspension frames phase running next after performed =>
    exact (proceed after next).after (.perform performed) (perform_entered performed)
  | case4 suspension frames phase running last performed =>
    obtain ⟨mid, halt, quiet, rfl⟩ := perform_ended performed
    exact (stop halt mid).after (.of_deliberates quiet) quiet.entered
  | case5 phase | case6 result phase => simp [isActive, phase] at active

end GoesOn

/-! ### Runs -/

/-- What a run has recorded that goes on: no end since it was begun, and an instruction for each suspension that its
host has got. -/
structure IsRecording (first : Engine) (stops : List Suspension) (e : Engine) : Prop where
  reports : first.ReportsOn e
  entered : e.entered = first.entered ++ stops.map Suspension.node
  executed : e.executed = stops.length
  indices : ∀ k s, stops[k]? = some s → s.index = k + 1

variable {first : Engine} {stops : List Suspension} {earlier : List Event}

theorem IsRecording.visited (recording : first.IsRecording stops e) (active : e.isActive = true)
    (visit : List Meddling) : first.IsRecording stops (visit.foldl meddle e) := by
  have same := visit_sameRun visit active
  exact ⟨recording.reports.trans (.visit visit active), same.entered.trans recording.entered,
    same.executed.trans recording.executed, recording.indices⟩

theorem IsRecording.advance {limit : CallLimit} (recording : first.IsRecording stops e) (placed : e.IsPlaced limit)
    {s : Suspension} (pending : e.advance.pending? = some s) : first.IsRecording (stops ++ [s]) e.advance := by
  have still := isActive_of_pending pending
  have active : e.isActive = true := by
    cases before : e.isActive with
    | true => rfl
    | false =>
      rw [advance_of_over before, before] at still
      cases still
  have counted : e.advance.executed = stops.length + 1 := by rw [(e.advance_spends.2 still).2, recording.executed]
  -- What still goes on has not been closed, so it has only reported.
  have reports : e.ReportsOn e.advance := by
    rcases GoesOn.advance active with ⟨-, reports⟩ | closes
    · exact reports
    · generalize e.advance = last at still closes
      cases closes
      cases still
  constructor
  · exact recording.reports.trans reports
  · rw [advance_entered pending, recording.entered, List.append_assoc, List.map_append]
    rfl
  · rw [counted, List.length_append, List.length_singleton]
  · intro k other found
    -- The new suspension comes last, and its index is what the count has come to.
    rcases Nat.lt_trichotomy k stops.length with inside | rfl | outside
    · rw [List.getElem?_append_left inside] at found
      exact recording.indices k other found
    · rw [List.getElem?_append_right (Nat.le_refl _), Nat.sub_self] at found
      cases found
      rw [placed.advance.index s pending, counted]
    · rw [List.getElem?_eq_none (by simp; omega)] at found
      cases found

theorem attend_isRecording {limit : CallLimit} (visits : Nat → List Meddling) (start : first.IsRecording [] first)
    (placed : first.IsPlaced limit) {n : Nat} (active : (first.attend visits n).isActive = true) :
    first.IsRecording (first.stopsAmong visits n) (first.attend visits n) := by
  induction n with
  | zero => exact start
  | succ n ih =>
    have before := attend_active_of_le visits (Nat.le_succ n) active
    obtain ⟨s, pending, -⟩ := answer_pending visits active
    have reached := (attend_isPlaced placed visits n).of_sameRun (visit_sameRun (visits n) before)
    rw [stopsAmong_succ, pending, Option.toList_some]
    rw [attend_succ_of_active visits before] at pending ⊢
    exact ((ih before).visited before (visits n)).advance reached pending

theorem armed_isRecording (program : Body) (functions : FunctionTable) (speed interactive : Json) (e : Engine) :
    (e.armed program functions speed interactive).IsRecording [] (e.armed program functions speed interactive) where
  reports := .of_same rfl
  entered := (List.append_nil _).symm
  executed := rfl
  indices k s found := by cases found

/-- The record of a run that is over, latest first, on top of what was recorded before: it opens with a note of success
and has one end, which is the last event, carries the result, and follows a note as serious as the outcome. -/
inductive IsRecord (earlier : List Event) (result : RunResult) : List Event → Prop
  | closed {opening closing : Note} {middle : List Event} (opens : opening.content = .str "EXECUTING PROGRAM...")
      (further : ∀ event ∈ middle, event.hook ≠ .ended) :
      IsRecord earlier result
        (.ended result :: .logged closing result.ending.severity :: (middle ++ .logged opening .success :: earlier))

/-- The instructions that a run has entered beside the suspensions that its host has got: one for each of them, in their
order. Only a run that breaks where a pause cannot be computed has entered one more. -/
inductive IsTrace (result : RunResult) (nodes : List Instruction) (stops : List Suspension) : Prop
  | matched (same : nodes = stops.map Suspension.node)
  | faltered {fault : PauseFault} {node : Instruction} (broke : result.ending = .crashed (.pause fault))
      (more : nodes = stops.map Suspension.node ++ [node])

theorem IsRecording.close (recording : first.IsRecording stops e) {last : Engine} (closes : e.Closes last)
    (counts : e.Counts last) (opened : first.events = .logged .started .success :: earlier) :
    ∃ result nodes, last.result? = some result ∧ IsRecord earlier result last.events ∧
      last.entered = first.entered ++ nodes ∧ result.executed = nodes.length ∧ IsTrace result nodes stops := by
  obtain @⟨mid, closing, ending, reports, fits, entered⟩ := closes
  obtain ⟨middle, recorded, further⟩ := recording.reports.trans reports
  have record : IsRecord earlier ⟨ending, mid.world, mid.executed⟩ ((mid.log closing).finish ending).events := by
    change IsRecord earlier _ (_ :: .logged closing closing.severity :: mid.events)
    rw [fits, recorded, opened]
    exact .closed rfl further
  have same : ((mid.log closing).finish ending).entered = mid.entered :=
    (entered_finish ending _).trans (entered_logAs _ _ mid)
  -- The result counts the entries of this run and none of those before it.
  have count (nodes : List Instruction) (all : mid.entered = first.entered ++ nodes) : mid.executed = nodes.length := by
    unfold Counts at counts
    rw [same, all, recording.entered, recording.executed] at counts
    simp only [List.length_append, List.length_map] at counts
    change _ = _ + mid.executed at counts
    omega
  rw [recording.entered] at entered
  rcases entered with all | ⟨fault, node, rfl, all⟩
  · exact ⟨_, _, rfl, record, same.trans all, count _ all, .matched rfl⟩
  · rw [List.append_assoc] at all
    exact ⟨_, _, rfl, record, same.trans all, count _ all, .faltered rfl rfl⟩

/-- However a run ends, and whatever its host does to it between two advances, its record has one shape, and its
instructions are counted alike in the record, in its result and in the suspensions: the suspension that is the k-th
answer to an advance has the index k and the k-th instruction that was entered. Only where a pause cannot be computed,
the instruction in front of it is entered and counted, but is not suspended at. -/
theorem attend_recorded {program : Body} {functions : FunctionTable} {speed interactive : Json}
    (begun : e.begin program functions speed interactive = (first, .ok ())) (visits : Nat → List Meddling) {n : Nat}
    (finished : (first.attend visits n).isActive = false) :
    ∃ result nodes stops, (first.attend visits n).result? = some result ∧
      IsRecord e.events result (first.attend visits n).events ∧
      (first.attend visits n).entered = e.entered ++ nodes ∧ result.executed = nodes.length ∧
      (∀ k s, stops[k]? = some s ↔ (first.attend visits k).isActive = true ∧ first.answer visits k = .ok (some s)) ∧
      IsTrace result nodes stops ∧ ∀ k s, stops[k]? = some s → s.index = k + 1 := by
  have placed := begin_isPlaced rfl begun
  rcases armed_of_begin begun with rfl
  let first := e.armed program functions speed interactive
  have active : first.isActive = true := rfl
  obtain ⟨last, less, before, after⟩ := exists_last visits active finished
  have recording := attend_isRecording visits (armed_isRecording program functions speed interactive e) placed before
  have visited := (visit_sameRun (visits last) before).isActive.trans before
  -- It is the last advance of the host that closes the record.
  have closes : ((visits last).foldl meddle (first.attend visits last)).Closes (first.attend visits n) := by
    rw [attend_of_over visits less after]
    rw [attend_succ_of_active visits before] at after ⊢
    rcases GoesOn.advance visited with ⟨still, -⟩ | closes
    · rw [after] at still
      cases still
    · exact closes
  have counts : ((visits last).foldl meddle (first.attend visits last)).Counts (first.attend visits n) := by
    rw [attend_of_over visits less after, attend_succ_of_active visits before]
    exact advance_counts _
  have all := stopsAmong_last visits less after
  obtain ⟨result, nodes, ended, record, entered, executed, trace⟩ :=
    (recording.visited before (visits last)).close closes counts rfl
  refine ⟨result, nodes, first.stopsAmong visits n, ended, record, ?_, executed, ?_, ?_, ?_⟩
  · rw [entered]
    exact congrArg (· ++ nodes) (entered_logAs _ _ _)
  · exact stopsAmong_getElem? visits active finished
  · exact all ▸ trace
  · exact all ▸ recording.indices

/-- A run that its host cancels in the middle of a function, after it has changed its mind about stepping, noted
something and asked for another run. -/
theorem attend_recorded_cancelled :
    let e : Engine :=
      { world := .ofBoard { size := 3, start := ⟨⟨0, 0⟩, .right, false⟩, goal := ⟨2, 0⟩, obstacles := [] }
        draws := .ofList [], observers := [.console "Run" true], baseDelay := .int 0, callLimit := .ofInt 3 }
    let functions : FunctionTable := [(.str "f", [.turnLeft, .move, .turnRight])]
    let program : Body := [.whileDo (.sensor .always) [.call (.str "f")]]
    let visits : Nat → List Meddling
      | 2 => [.interactive (.bool false), .log (.str "watch") .info, .begin [] [] (.int 1) (.bool false)]
      | 4 => [.cancel]
      | _ => []
    let first := e.armed program functions (.int 5) (.bool true)
    let reached := first.attend visits 9
    ∃ result nodes stops, reached.result? = some result ∧ IsRecord e.events result reached.events ∧
      reached.entered = e.entered ++ nodes ∧ IsTrace result nodes stops ∧
      result.ending = .aborted ∧ nodes.length = 4 ∧ ∀ k s, stops[k]? = some s → s.index = k + 1 := by
  intro e functions program visits first reached
  have positive : Relation.greater.check (.int 5) (.int 0) = .ok true := rfl
  have begun := begin_eq_armed (e := e) program functions (.bool true) rfl positive
  have finished : reached.isActive = false := by decide +kernel
  obtain ⟨result, nodes, stops, ended, record, entered, executed, -, trace, indices⟩ :=
    attend_recorded begun visits finished
  have aborted : reached.result?.map (fun result => (result.ending, result.executed)) = some (.aborted, 4) := by
    decide +kernel
  rw [ended, Option.map_some, Option.some.injEq, Prod.mk.injEq] at aborted
  exact ⟨result, nodes, stops, ended, record, entered, trace, aborted.1, executed.symm.trans aborted.2, indices⟩

/-- Where the pause in front of an instruction cannot be computed, the instruction is entered and counted, and the host
gets no suspension for it. -/
theorem attend_falters_unsuspended :
    let e : Engine :=
      { world := .ofBoard { size := 3, start := ⟨⟨0, 0⟩, .right, false⟩, goal := ⟨0, 0⟩, obstacles := [] }
        draws := .ofList [], observers := [], baseDelay := .int (Nat.pow 2 1024), callLimit := .ofInt 50 }
    let first := (e.begin [.turnLeft] [] (.num (.float ⟨0x3ff0000000000000⟩)) (.bool false)).1
    let reached := first.attend (fun _ => []) 1
    first.isActive = true ∧ reached.isActive = false ∧
      reached.entered.length = 1 ∧ reached.result?.map RunResult.executed = some 1 ∧
      (first.stopsAmong (fun _ => []) 1).length = 0 := by
  intro e first reached
  exact ⟨by decide +kernel, by decide +kernel, by decide +kernel, by decide +kernel, by decide +kernel⟩

end Engine

end GridRobot
