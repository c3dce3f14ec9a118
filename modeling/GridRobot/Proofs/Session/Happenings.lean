import GridRobot.Proofs.Session.Requests

/-!
What may happen to a session: the requests of its user, and the delay that passes while its run sits in it. All of it
comes about in few sorts of small steps (`Session.Becomes`), so that what these keep is kept by a session however it is
used: its settings, and that its level is the one that the catalog gives for the number of that level.
-/
namespace GridRobot

theorem Catalog.get_id (catalog : Catalog) (wanted : Json) :
    catalog.get (.int (catalog.get wanted).2.id) = ([], (catalog.get wanted).2) := by
  have found_again {level : Level} (found : catalog.levels.find? (fun other => (Json.int other.id).same (.int level.id)) =
      some level) : catalog.get (.int level.id) = ([], level) := by
    rw [get, found]
  apply found_again
  have same_int (a b : Int) : (Json.int a).same (.int b) = true ↔ a = b := by
    simp [Json.same, Json.number?, Number.same]
  unfold get
  split
  · rename_i level found
    rcases List.find?_eq_some_iff_append.mp found with ⟨fits, earlier, later, split, none⟩
    refine List.find?_eq_some_iff_append.mpr ⟨(same_int _ _).mpr rfl, earlier, later, split, ?_⟩
    intro other member
    -- An earlier level with this number would have been found in the first place.
    have misfit := none other member
    simp only [Bool.not_eq_true', Bool.eq_false_iff] at misfit ⊢
    rintro alike
    rw [(same_int _ _).mp alike] at misfit
    exact misfit fits
  · have here : catalog.levels = catalog.first :: catalog.levels.tail := (List.cons_head_tail catalog.nonempty).symm
    rw [here]
    exact List.find?_cons_of_pos ((same_int _ _).mpr rfl)

namespace Session

/-! ### A drive, step by step -/

section Drive

variable {s : Session} {patient : Bool} {suspension : Suspension}

theorem drive_ended (finished : s.engine.advance.pending? = none) :
    s.drive patient = ({ s with engine := s.engine.advance } : Session).ended := by
  rw [drive]
  split
  · rfl
  · rename_i pending
    rw [finished] at pending
    cases pending

theorem drive_suspended (pending : s.engine.advance.pending? = some suspension) :
    s.drive patient = match s.engine.advance.sleep (.num (.float suspension.delay)) with
      | .error fault => ({ s with engine := s.engine.advance } : Session).broken fault
      | .ok cancelled =>
        if (suspension.isInteractive || (suspension.delay.isPositive && !patient)) && !cancelled then
          { s with engine := s.engine.advance, waiting := suspension.isInteractive }
        else ({ s with engine := s.engine.advance } : Session).drive patient := by
  rw [drive]
  split
  · rename_i finished
    rw [pending] at finished
    cases finished
  · rename_i other found
    rw [pending] at found
    cases found
    rfl

theorem continueRun_moving (moves : s.waiting = false) : s.continueRun = (s, false) := by
  simp [continueRun, moves]

theorem continueRun_waiting (waits : s.waiting = true) :
    s.continueRun = ((({ s with engine := s.engine.setInteractive (.bool false) } : Session).print
      (if s.verbose then ["[Debugger] Continuing without stepping"] else [])).release, true) := by
  rw [continueRun, waits]
  rfl

end Drive

/-! ### The small steps -/

/-- One session comes from another in any number of small steps. -/
inductive Becomes (s : Session) : Session → Prop
  | start : Becomes s s
  | print {t : Session} (becomes : Becomes s t) (lines : List String) : Becomes s (t.print lines)
  | report {t : Session} (becomes : Becomes s t) (note : Note) (severity : Severity) :
      Becomes s { t with engine := t.engine.logAs note severity }
  | switch {t : Session} (becomes : Becomes s t) (wanted : Json) : Becomes s { t with level := (t.catalog.get wanted).2 }
  | install {t : Session} (becomes : Becomes s t) (program functions : Body) : Becomes s { t with program, functions }
  | place {t : Session} (becomes : Becomes s t) (world : World) : Becomes s { t with engine := { t.engine with world } }
  | interactive {t : Session} (becomes : Becomes s t) (value : Json) :
      Becomes s { t with engine := t.engine.setInteractive value }
  | cancel {t : Session} (becomes : Becomes s t) : Becomes s { t with engine := t.engine.cancel }
  | observe {t : Session} (becomes : Becomes s t) (observer : Observer) : Becomes s (t.observe observer)
  | arm {t : Session} (becomes : Becomes s t) (table : FunctionTable) (speed interactive : Json) :
      Becomes s { t with engine := t.engine.armed t.program table speed interactive }
  | mark {t : Session} (becomes : Becomes s t) (waiting : Bool) (fault : Option RunFault) :
      Becomes s { t with waiting, fault }
  | advance {t : Session} (becomes : Becomes s t) : Becomes s { t with engine := t.engine.advance }

namespace Becomes

variable {s t : Session}

theorem logAs (becomes : s.Becomes t) (text : String) (severity : Severity) : s.Becomes (t.logAs text severity) :=
  becomes.report _ severity

theorem logGiven (becomes : s.Becomes t) (label : String) (value : Json) : s.Becomes (t.logGiven label value) := by
  unfold Session.logGiven
  split
  · exact becomes.logAs _ _
  · exact becomes

theorem warn (becomes : s.Becomes t) (warnings : List String) :
    s.Becomes (warnings.foldl (fun s warning => s.logAs warning .warning) t) := by
  induction warnings generalizing t with
  | nil => exact becomes
  | cons warning rest ih => exact ih (becomes.logAs warning .warning)

theorem introduce (becomes : s.Becomes t) (functions : FunctionTable) : s.Becomes (t.introduce functions) := by
  induction functions generalizing t with
  | nil => exact becomes
  | cons entry rest ih => exact ih (becomes.logAs _ .info)

theorem broken (becomes : s.Becomes t) (fault : RunFault) : s.Becomes (t.broken fault) :=
  (becomes.mark false (some fault)).print _

theorem ended (becomes : s.Becomes t) : s.Becomes t.ended := by
  unfold Session.ended
  split
  · exact becomes.broken _
  · exact becomes.mark false none

theorem drive (becomes : s.Becomes t) (patient : Bool) : s.Becomes (t.drive patient) := by
  fun_induction Session.drive patient t with
  | case1 t finished => exact becomes.advance.ended
  | case2 t suspension pending fault stuck => exact becomes.advance.broken fault
  | case3 t suspension pending cancelled slept waits rests => exact becomes.advance.mark _ t.fault
  | case4 t suspension pending cancelled slept waits goes ih => exact ih becomes.advance

theorem release (becomes : s.Becomes t) : s.Becomes t.release := (becomes.mark false t.fault).drive false

theorem rebuildWorld (becomes : s.Becomes t) : s.Becomes t.rebuildWorld.1 := by
  unfold Session.rebuildWorld Engine.setWorld
  cases t.level.world t.allocation with
  | error fault => exact becomes
  | ok world =>
    cases t.engine.isActive with
    | true => exact becomes
    | false => exact becomes.place world

theorem loadLevel (becomes : s.Becomes t) (wanted : Json) : s.Becomes (t.loadLevel wanted).1 := by
  have rebuilt := ((becomes.switch wanted).print (t.catalog.get wanted).1).rebuildWorld
  unfold Session.loadLevel
  split
  · exact becomes
  · dsimp only
    split
    · rename_i failed
      rwa [failed] at rebuilt
    · rename_i next built
      rw [built] at rebuilt
      exact ((rebuilt.logAs _ _).logGiven _ _).logGiven _ _

theorem nextLevel (becomes : s.Becomes t) : s.Becomes t.nextLevel.1 := by
  unfold Session.nextLevel
  split
  · exact becomes.logAs _ _
  · exact becomes.loadLevel _

theorem importProgram (becomes : s.Becomes t) (source : Source) : s.Becomes (t.importProgram source).1 := by
  unfold Session.importProgram
  split
  · exact becomes
  · rcases ProgramFile.import? t.verbose source with ⟨lines, error | file⟩
    · exact (becomes.print lines).logAs _ _
    · have installed := (((becomes.print lines).install file.main file.functions).warn file.warnings).logAs
        ("Program imported successfully from level " ++ file.level.text ++ ": " ++ file.levelName) .success
      dsimp only
      split
      · exact installed
      · exact installed.logAs _ _

theorem run (becomes : s.Becomes t) (speed : Option Json) (interactive : Json) : s.Becomes (t.run speed interactive).1 := by
  have outcome := t.prepare_preparesTo speed interactive
  unfold Session.run
  generalize t.prepare speed interactive = answer at outcome
  cases outcome with
  | refused running => exact becomes.report _ _
  | nothing => exact becomes.logAs _ _
  | unusable fault => exact becomes
  | declined table error => exact becomes.introduce table
  | begun idle table =>
    have armed : s.Becomes { t.introduce table with engine := t.armed table speed interactive } := by
      unfold Session.armed
      rw [← introduce_program table t]
      exact (becomes.introduce table).arm table _ interactive
    exact (armed.mark false none).drive false

theorem step (becomes : s.Becomes t) (speed : Option Json) : s.Becomes (t.step speed).1 := by
  unfold Session.step
  split
  · exact becomes.run _ _
  · split
    · exact becomes
    · exact (becomes.interactive _).release

theorem continueRun (becomes : s.Becomes t) : s.Becomes t.continueRun.1 := by
  unfold Session.continueRun
  split
  · exact becomes
  · exact ((becomes.interactive _).print _).release

theorem cancelled (becomes : s.Becomes t) : s.Becomes (Session.cancel t) := by
  unfold Session.cancel
  dsimp only
  split
  · exact becomes.cancel.release
  · exact becomes.cancel

theorem restore (becomes : s.Becomes t) : s.Becomes t.restore.1 := by
  have rebuilt := (becomes.interactive (.bool false)).rebuildWorld
  unfold Session.restore
  split
  · rename_i failed
    rwa [failed] at rebuilt
  · rename_i built
    rw [built] at rebuilt
    exact rebuilt.logAs _ _

theorem reset (becomes : s.Becomes t) : s.Becomes t.reset.1 := by
  unfold Session.reset
  split
  · dsimp only
    split
    · exact becomes.cancelled
    · exact becomes.cancelled.restore
  · exact becomes.restore

theorem serve (becomes : s.Becomes t) (request : Request) : s.Becomes (t.serve request).1 := by
  cases request with
  | loadLevel wanted => exact becomes.loadLevel wanted
  | nextLevel => exact becomes.nextLevel
  | importProgram source => exact becomes.importProgram source
  | exportProgram files path stamp date => exact (becomes.print _).logAs _ _
  | run speed interactive => exact becomes.run speed interactive
  | step speed => exact becomes.step speed
  | continueRun => exact becomes.continueRun
  | cancel => exact becomes.cancelled
  | reset => exact becomes.reset
  | observe observer => exact becomes.observe observer
  | loadFile files path =>
    unfold Session.serve Answer.settled Session.loadFile
    dsimp only
    split
    · exact becomes
    · split
      · exact becomes
      · exact becomes.importProgram _
  | setProgram main functions =>
    unfold Session.serve setProgram
    dsimp only
    split
    · exact becomes
    · split
      · exact becomes
      · exact becomes.install main functions
  | clearProgram =>
    unfold Session.serve clearProgram
    dsimp only
    split
    · exact becomes
    · exact (becomes.install [] t.functions).logAs _ _
  | clearFunctions =>
    unfold Session.serve clearFunctions
    dsimp only
    split
    · exact becomes
    · exact (becomes.install t.program []).logAs _ _
  | join =>
    unfold Session.serve join
    dsimp only
    split
    · exact becomes.drive true
    · exact becomes
  | setRegister name value =>
    unfold Session.serve setRegister
    dsimp only
    split
    · exact becomes
    · exact becomes.place _

theorem undergo (becomes : s.Becomes t) (happening : Happening) : s.Becomes (t.undergo happening).1 := by
  cases happening with
  | request request => exact becomes.serve request
  | elapse =>
    unfold Session.undergo obey
    dsimp only
    split
    · exact becomes.drive false
    · exact becomes

theorem undergoAll (becomes : s.Becomes t) (happenings : List Happening) : s.Becomes (t.undergoAll happenings) := by
  induction happenings generalizing t with
  | nil => exact becomes
  | cons happening rest ih => exact ih (becomes.undergo happening)

end Becomes

/-! ### What every small step keeps -/

structure Settings where
  allocation : Allocation
  catalog : Catalog
  verbose : Bool
  baseDelay : Json
  callLimit : CallLimit

def settings (s : Session) : Settings := ⟨s.allocation, s.catalog, s.verbose, s.engine.baseDelay, s.engine.callLimit⟩

theorem Becomes.settings {s t : Session} (becomes : s.Becomes t) : t.settings = s.settings := by
  induction becomes with
  | start => rfl
  | @advance t becomes ih =>
    have baseDelay := (Engine.advance_pace t.engine).baseDelay
    have callLimit := (Engine.advance_table t.engine).2
    rw [← ih]
    unfold Session.settings
    rw [baseDelay, callLimit]
  | print | report | switch | install | place | interactive | cancel | observe | arm | mark => assumption

theorem Becomes.catalog {s t : Session} (becomes : s.Becomes t) : t.catalog = s.catalog :=
  congrArg Settings.catalog becomes.settings

/-- The level is the one that the catalog gives for its number. -/
def IsListed (s : Session) : Prop := s.catalog.get (.int s.level.id) = ([], s.level)

theorem IsListed.mem {s : Session} (listed : s.IsListed) : s.level ∈ s.catalog.levels := by
  have found := s.catalog.get_mem (.int s.level.id)
  rwa [listed] at found

theorem IsListed.becomes {s t : Session} (listed : s.IsListed) (becomes : s.Becomes t) : t.IsListed := by
  induction becomes with
  | start => exact listed
  | switch becomes wanted ih => exact Catalog.get_id _ wanted
  | print | report | install | place | interactive | cancel | observe | arm | mark | advance => assumption

theorem IsListed.of_start {allocation : Allocation} {catalog : Catalog} {wanted : Json} {draws : Draws}
    {observers : List Observer} {baseDelay : Json} {callLimit : CallLimit} {verbose : Bool} {lines : List String} {s : Session}
    (started : start allocation catalog wanted draws observers baseDelay callLimit verbose = (lines, .ok s)) :
    s.IsListed ∧ s.settings = ⟨allocation, catalog, verbose, baseDelay, callLimit⟩ := by
  rcases start_ok started with ⟨world, -, rfl⟩
  exact ⟨catalog.get_id wanted, rfl⟩

end Session

end GridRobot
