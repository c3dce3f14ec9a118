import GridRobot.Proofs.Run.Effect

/-!
The state of a run, from its record alone. `World.recalled` puts together what the events since the begin of a run show
last, and `World.IsFaithful` says that each event shows the effect of the instruction that was entered last before it.
`Engine.IsTold` is kept by whatever a run does and by hosts that leave the registers alone, so a run always stands in
the world that its record recalls.
-/
namespace GridRobot

namespace Event

def robot? : Event → Option Pose
  | .worldChanged w => some w.robot
  | _ => none

def registers? : Event → Option Registers
  | .worldChanged w => some w.registers
  | .registersChanged registers => some registers
  | _ => none

def node? : Event → Option Instruction
  | .entered node => some node
  | _ => none

def shown : Event → World → Option World
  | .worldChanged w, _ => some w
  | .registersChanged registers, w => some { w with registers }
  | _, _ => none

end Event

namespace World

/-- The world that a record recalls, latest event first: with the robot and the registers as they were last shown, or
as they were to begin with. -/
def recalled (start : World) (recorded : List Event) : World :=
  { start with
    robot := (recorded.findSome? Event.robot?).getD start.robot
    registers := (recorded.findSome? Event.registers?).getD start.registers }

/-- Each change that a record shows is the effect of the instruction that was entered last before it, on the world as it
was before it. -/
def IsFaithful (start : World) (recorded : List Event) : Prop :=
  ∀ event earlier, event :: earlier <:+ recorded → ∀ w, event.shown (start.recalled earlier) = some w →
    ∃ node, earlier.findSome? Event.node? = some node ∧ w = node.effect (start.recalled earlier)

variable {start w : World} {recorded : List Event} {event : Event}

theorem recalled_quiet (quiet : ∀ w, event.shown w = none) :
    start.recalled (event :: recorded) = start.recalled recorded := by
  cases event with
  | worldChanged | registersChanged => cases quiet start
  | entered | logged | ended => rfl

theorem recalled_worldChanged (board : w.board = start.board) :
    start.recalled (.worldChanged w :: recorded) = w := by
  rw [recalled, ← board]
  rfl

theorem recalled_registersChanged (registers : Registers) :
    start.recalled (.registersChanged registers :: recorded) = { start.recalled recorded with registers } := rfl

theorem IsFaithful.cons (faithful : start.IsFaithful recorded)
    (fits : ∀ w, event.shown (start.recalled recorded) = some w →
      ∃ node, recorded.findSome? Event.node? = some node ∧ w = node.effect (start.recalled recorded)) :
    start.IsFaithful (event :: recorded) := by
  intro other earlier suffix
  rcases List.suffix_cons_iff.mp suffix with same | before
  · cases same
    exact fits
  · exact faithful other earlier before

end World

namespace Engine

/-- A run stands in the world that its record recalls, on top of the record of an engine from which it was begun. The
instruction that was entered last is told by the record too. -/
def Recalls (start : Engine) (last : Option Instruction) (e : Engine) : Prop :=
  ∃ recorded, e.events = recorded ++ start.events ∧ e.world = start.world.recalled recorded ∧
    start.world.IsFaithful recorded ∧ recorded.findSome? Event.node? = last

variable {start e next : Engine} {last : Option Instruction}

namespace Recalls

theorem of_same (recalls : start.Recalls last e) (events : next.events = e.events) (world : next.world = e.world) :
    start.Recalls last next := by
  obtain ⟨recorded, record, here, faithful, entered⟩ := recalls
  exact ⟨recorded, events.trans record, world.trans here, faithful, entered⟩

theorem emit (recalls : start.Recalls last e) {event : Event} (quiet : ∀ w, event.shown w = none) :
    start.Recalls (event.node?.or last) (e.emit event) := by
  obtain ⟨recorded, record, here, faithful, rfl⟩ := recalls
  refine ⟨event :: recorded, congrArg (event :: ·) record, ?_, faithful.cons ?_, ?_⟩
  · rw [World.recalled_quiet quiet]
    exact here
  · intro w changed
    rw [quiet] at changed
    cases changed
  · rw [List.findSome?_cons]
    cases event.node? <;> rfl

theorem logAs (recalls : start.Recalls last e) (note : Note) (severity : Severity) :
    start.Recalls last (e.logAs note severity) := recalls.emit fun _ => rfl

theorem of_deliberates (recalls : start.Recalls last e) (quiet : e.Deliberates next) : start.Recalls last next := by
  induction quiet with
  | start => exact recalls
  | log note _ ih => exact ih.logAs _ _
  | draw draws _ ih => exact ih.of_same rfl rfl

theorem finish (recalls : start.Recalls last e) (ending : Ending) : start.Recalls last (e.finish ending) := by
  have closed : start.Recalls last { e with phase := .completed ⟨ending, e.world, e.executed⟩ } :=
    recalls.of_same rfl rfl
  exact closed.emit fun _ => rfl

theorem stop (recalls : start.Recalls last e) (halt : Halt) : start.Recalls last (e.stop halt) :=
  (recalls.logAs _ _).finish _

theorem abort (recalls : start.Recalls last e) : start.Recalls last e.abort := (recalls.logAs _ _).finish _

theorem conclude (recalls : start.Recalls last e) : start.Recalls last e.conclude := by
  unfold Engine.conclude
  split
  · exact (recalls.logAs _ _).finish _
  · exact (recalls.logAs _ _).finish _

theorem announce (recalls : start.Recalls last e) (node : Instruction) :
    start.Recalls (some node) (e.announce node) := by
  have counted : start.Recalls last { e with executed := e.executed + 1 } := recalls.of_same rfl rfl
  have entered : start.Recalls (some node) ({ e with executed := e.executed + 1 }.emit (.entered node)) :=
    counted.emit fun _ => rfl
  unfold Engine.announce
  dsimp only
  split
  · exact entered.logAs _ _
  · exact entered

theorem show_change {node : Instruction} (recalls : start.Recalls (some node) e) (event : Event) {w : World}
    (changed : event.shown e.world = some w) (effect : w = node.effect e.world)
    (recorded : next.events = event :: e.events) (world : next.world = w) : start.Recalls (some node) next := by
  obtain ⟨before, record, here, faithful, entered⟩ := recalls
  have board : w.board = start.world.board := by rw [effect, Instruction.effect_board, here]; rfl
  rw [here] at changed effect
  refine ⟨event :: before, by rw [recorded, record, List.cons_append], ?_, faithful.cons ?_, ?_⟩
  · rw [world]
    cases event with
    | worldChanged =>
      cases changed
      exact (World.recalled_worldChanged board).symm
    | registersChanged registers =>
      cases changed
      exact (World.recalled_registersChanged registers).symm
    | entered | logged | ended => cases changed
  · intro other shown
    rw [changed] at shown
    cases shown
    exact ⟨node, entered, effect⟩
  · rw [List.findSome?_cons, ← entered]
    cases event with
    | entered => cases changed
    | worldChanged | registersChanged | logged | ended => rfl

theorem perform {node : Instruction} {frames after : List Frame} (recalls : start.Recalls (some node) e)
    (performed : e.perform node frames = .onward next after) : start.Recalls (some node) next := by
  have effect := perform_effect performed
  rcases perform_onward performed with quiet | ⟨world, note, rfl⟩ | ⟨registers, note, rfl⟩
  · exact recalls.of_deliberates quiet
  · exact (recalls.logAs note note.severity).show_change (.worldChanged world) rfl effect rfl rfl
  · exact (recalls.logAs note note.severity).show_change (.registersChanged registers) rfl effect rfl rfl

end Recalls

def IsTold (start e : Engine) : Prop :=
  ∃ last, start.Recalls last e ∧ ∀ s, e.pending? = some s → last = some s.node

namespace IsTold

theorem of_unsuspended (recalls : start.Recalls last e) (nothing : e.pending? = none) : start.IsTold e := by
  refine ⟨last, recalls, fun s pending => ?_⟩
  rw [nothing] at pending
  cases pending

theorem of_sameRun (told : start.IsTold e) (same : e.SameRun next)
    (recalls : ∀ {last}, start.Recalls last e → start.Recalls last next) : start.IsTold next := by
  obtain ⟨last, before, entered⟩ := told
  refine ⟨last, recalls before, fun s pending => entered s ?_⟩
  unfold pending? at pending ⊢
  rwa [← same.phase]

theorem stop (recalls : start.Recalls last e) (halt : Halt) : start.IsTold (e.stop halt) :=
  of_unsuspended (recalls.stop halt) rfl

theorem abort (recalls : start.Recalls last e) : start.IsTold e.abort := of_unsuspended recalls.abort rfl

theorem enter (recalls : start.Recalls last e) (node : Instruction) (frames : List Frame) :
    start.IsTold (e.enter node frames) := by
  have announced := recalls.announce node
  rw [enter_eq]
  split
  · exact abort recalls
  · split
    · exact stop announced _
    · refine ⟨some node, announced.of_same rfl rfl, ?_⟩
      rintro s ⟨⟩
      rfl

theorem proceed (recalls : start.Recalls last e) (frames : List Frame) : start.IsTold (e.proceed frames) := by
  rcases proceed_cases e frames with ⟨mid, quiet, ends | ⟨-, ends⟩ | ⟨halt, ends⟩ | ⟨node, after, ends⟩⟩
  · exact ends ▸ of_unsuspended (recalls.of_deliberates quiet).conclude (conclude_pending mid)
  · exact ends ▸ abort (recalls.of_deliberates quiet)
  · exact ends ▸ stop (recalls.of_deliberates quiet) halt
  · exact ends ▸ enter (recalls.of_deliberates quiet) node after

theorem advance (told : start.IsTold e) : start.IsTold e.advance := by
  obtain ⟨last, recalls, entered⟩ := told
  fun_cases Engine.advance e with
  | case1 frames phase => exact proceed recalls frames
  | case2 suspension frames phase cancelled => exact abort recalls
  | case3 suspension frames phase running next after performed =>
    -- What is performed is the instruction that was entered last, so its effect is the one expected.
    rw [entered suspension (by simp [pending?, phase])] at recalls
    exact proceed (recalls.perform performed) after
  | case4 suspension frames phase running last performed =>
    obtain ⟨mid, halt, quiet, rfl⟩ := perform_ended performed
    exact stop (recalls.of_deliberates quiet) halt
  | case5 phase | case6 result phase => exact ⟨last, recalls, entered⟩

theorem meddle (told : start.IsTold e) (active : e.isActive = true) {meddling : Meddling}
    (handsOff : meddling.IsHandsOff) : start.IsTold (e.meddle meddling) := by
  refine told.of_sameRun (meddle_sameRun active meddling) fun recalls => ?_
  cases meddling with
  | register name value => exact handsOff.elim
  | interactive | cancel | observe => exact recalls.of_same rfl rfl
  | begin program functions speed interactive =>
    rw [meddle_begin active]
    exact recalls.logAs _ _
  | setWorld world =>
    rw [meddle_setWorld active]
    exact recalls
  | log content severity => exact recalls.logAs _ _

theorem visit (told : start.IsTold e) (active : e.isActive = true) {visit : List Meddling}
    (handsOff : ∀ m ∈ visit, m.IsHandsOff) : start.IsTold (visit.foldl Engine.meddle e) :=
  visit_keeps active (fun m member still told => told.meddle still (handsOff m member)) told

theorem attend (told : start.IsTold e) {visits : Nat → List Meddling}
    (handsOff : ∀ n, ∀ m ∈ visits n, m.IsHandsOff) (n : Nat) : start.IsTold (e.attend visits n) :=
  attend_induction visits told (fun n active told => (told.visit active (handsOff n)).advance) n

end IsTold

end Engine

end GridRobot
