import ClassModel.Log.Setup

/-!
# The log over a run

The log is set up and told entries, in any order and again and again. Whatever is done, its handlers
are those of the last set-up with a level: the console, and at most one file, both from the level of
the package logger on (`run_settled`). Two things follow. An entry is written at most once, to the
file of the log, and the level of a handler never keeps an entry out that the logger lets through
(`lines_tell`). And no file loses a line (`prefix_lines_run`).

A set-up whose file cannot be opened is no exception: it leaves the console alone, at the new level.
-/

set_option autoImplicit false

namespace ClassModel
namespace Log

variable {name logger message : String} {level : Level} {place : List String} {l : Line}

/-- A logger is heard unless its name starts like the package logger and goes on without a dot. -/
theorem isBelowPackage_loggerName_iff : isBelowPackage (loggerName name) = true ↔
    (packageLogger.toList <+: name.toList →
      name = packageLogger ∨ (packageLogger ++ ".").toList <+: name.toList) := by
  rw [loggerName]
  by_cases hstart : packageLogger.toList <+: name.toList
  · simp [isBelowPackage, hstart]
  · simp [isBelowPackage, hstart, String.toList_append]

/-- What is done to a log. -/
inductive Act
  | setUp (level file : Json)
  | tell (logger : String) (level : Level) (message : String)

/-- The level that an act gives to the log. -/
def Act.level? : Act → Option Level
  | .setUp level _ => (levelOf level).toOption
  | .tell _ _ _ => none

namespace State

variable {s : State} {written : List (List String × List Line)}

/-- The log after an act. -/
def act (s : State) : Act → State
  | .setUp level file => (s.setUp level file).1
  | .tell logger level message => s.tell logger level message

/-- The log after several acts. -/
def run (s : State) (acts : List Act) : State := acts.foldl act s

/-- The lines of the file at a place. -/
def lines (s : State) (place : List String) : List Line := (s.written.lookup place).getD []

/-- The handlers of a log that is set up: the console and at most one file, at its own level. -/
def IsSetUp (s : State) : Prop :=
  s.handlers = [(.console, s.level)] ∨
    ∃ place, s.handlers = [(.console, s.level), (.file place, s.level)]

/-! ## Writing -/

/-- Where a file has lines already, it gets one more and the others get none. -/
theorem lookup_map_extend (written : List (List String × List Line)) (here place : List String)
    (l : Line) :
    (written.map fun f => if f.1 = here then (here, f.2 ++ [l]) else f).lookup place =
      (written.lookup place).map (· ++ if place = here then [l] else []) := by
  induction written with
  | nil => rfl
  | cons f rest ih =>
    obtain ⟨key, ls⟩ := f
    have hkey : (if key = here then (here, ls ++ [l]) else (key, ls)) =
        (key, ls ++ if key = here then [l] else []) := by
      split
      · next heq => rw [heq]
      · rw [List.append_nil]
    rw [List.map_cons, hkey, List.lookup_cons, List.lookup_cons]
    by_cases hplace : place = key
    · subst hplace
      simp
    · rw [beq_eq_false_iff_ne.mpr hplace]
      exact ih

/-- Only the file at the place gets the line. -/
theorem lookup_append (written : List (List String × List Line)) (here place : List String)
    (l : Line) : ((append written here l).lookup place).getD [] =
      (written.lookup place).getD [] ++ if place = here then [l] else [] := by
  rw [append]
  split
  · next hthere =>
    rw [lookup_map_extend]
    cases hplace : written.lookup place with
    | some ls => rfl
    | none =>
      have hne : place ≠ here := by
        rintro rfl
        obtain ⟨f, hf, hkey⟩ := List.any_eq_true.mp hthere
        have hother := List.lookup_eq_none_iff.mp hplace f hf
        exact bne_iff_ne.mp hother (of_decide_eq_true hkey).symm
      simp [hne]
  · next hthere =>
    rw [List.lookup_append]
    by_cases hplace : place = here
    · subst hplace
      have hnone : written.lookup place = none := by
        refine List.lookup_eq_none_iff.mpr fun f hf => ?_
        simp only [List.any_eq_true, decide_eq_true_eq, not_exists, not_and] at hthere
        exact bne_iff_ne.mpr (Ne.symm (hthere f hf))
      simp [hnone]
    · rw [List.lookup_cons, beq_eq_false_iff_ne.mpr hplace, if_neg hplace, List.append_nil]
      cases written.lookup place <;> rfl

/-- Each handler of the file writes the line, if its level lets it through. -/
theorem lookup_foldl_handle (handlers : List (Handler × Level))
    (written : List (List String × List Line)) :
    ((handlers.foldl (handle l) written).lookup place).getD [] =
      (written.lookup place).getD [] ++
        (handlers.filter fun h => h.1 = .file place ∧ h.2 ≤ l.level).map fun _ => l := by
  induction handlers generalizing written with
  | nil => simp
  | cons h rest ih =>
    have hone : ((handle l written h).lookup place).getD [] =
        (written.lookup place).getD [] ++
          ([h].filter fun h => h.1 = .file place ∧ h.2 ≤ l.level).map fun _ => l := by
      obtain ⟨_ | here, least⟩ := h
      · simp [handle]
      · by_cases hleast : least ≤ l.level
        · by_cases hplace : place = here
          · simp [handle, hleast, lookup_append, hplace]
          · simp [handle, hleast, lookup_append, hplace, Ne.symm hplace]
        · simp [handle, hleast]
    rw [List.foldl_cons, ih, hone, List.append_assoc, ← List.map_append, ← List.filter_append]
    rfl

/-! ## One entry -/

@[simp] theorem level_tell : (s.tell logger level message).level = s.level := by
  simp only [tell]
  split <;> rfl

@[simp] theorem handlers_tell : (s.tell logger level message).handlers = s.handlers := by
  simp only [tell]
  split <;> rfl

@[simp] theorem hears_tell {other : String} {l : Level} :
    (s.tell logger level message).hears other l = s.hears other l := by
  rw [hears, hears, least, least, level_tell]

theorem IsSetUp.tell (h : s.IsSetUp) : (s.tell logger level message).IsSetUp := by
  simpa [IsSetUp] using h

/-- What the package logger lets through, its handlers do. -/
theorem level_le_of_hears (h : s.hears logger level = true) : s.level ≤ level := by
  obtain ⟨⟨_, hleast⟩, hpositive⟩ : (_ ∧ s.least ≤ level) ∧ 0 < level := by
    simpa only [hears, Bool.and_eq_true, decide_eq_true_eq] using h
  rw [least] at hleast
  split at hleast
  · next hzero =>
    rw [hzero]
    exact Int.le_of_lt hpositive
  · exact hleast

/-- **An entry is written once, to the file of the log, exactly if the package logger lets it
through.** -/
theorem lines_tell (h : s.IsSetUp) (place : List String) :
    (s.tell logger level message).lines place = s.lines place ++
      if s.hears logger level = true ∧ (.file place, s.level) ∈ s.handlers then
        [⟨level, loggerName logger, message⟩] else [] := by
  by_cases hears : s.hears logger level = true
  · have hle := level_le_of_hears hears
    rw [State.tell, if_pos hears, lines, lookup_foldl_handle]
    rcases h with h | ⟨there, h⟩
    · simp [h, lines]
    · by_cases hplace : there = place
      · simp [h, lines, hplace, hears, hle]
      · simp [h, lines, hplace, Ne.symm hplace]
  · rw [State.tell, if_neg hears]
    simp [hears]

/-! ## Setting up -/

theorem handleFile_spec (s : State) (level : Level) (file : Json) :
    (s.handleFile level file).1.level = s.level ∧
      (s.handleFile level file).1.written = s.written ∧
      ((s.handleFile level file).1.handlers = s.handlers ∨
        ∃ place, (s.handleFile level file).1.handlers = s.handlers ++ [(.file place, level)]) := by
  rw [handleFile]
  split
  · exact ⟨rfl, rfl, Or.inl rfl⟩
  · split
    · exact ⟨rfl, rfl, Or.inl rfl⟩
    · split
      · exact ⟨rfl, rfl, Or.inl rfl⟩
      · next place _ => exact ⟨rfl, rfl, Or.inr ⟨place, rfl⟩⟩

/-- No file loses a line to an entry, whatever the handlers are. -/
theorem prefix_lines_tell (s : State) (logger : String) (level : Level) (message : String)
    (place : List String) : s.lines place <+: (s.tell logger level message).lines place := by
  rw [State.tell]
  split
  · rw [lines, lines, lookup_foldl_handle]
    exact List.prefix_append _ _
  · exact List.prefix_refl _

/-- **A wrong level changes nothing. With any other one the log is set up, even if its file cannot
be opened, and no file loses a line.** -/
theorem setUp_cases (s : State) (level file : Json) :
    (∃ f, levelOf level = .error f ∧ s.setUp level file = (s, some f)) ∨
      ∃ l, levelOf level = .ok l ∧ (s.setUp level file).1.level = l ∧
        (s.setUp level file).1.IsSetUp ∧
        ∀ place, s.lines place <+: (s.setUp level file).1.lines place := by
  rw [setUp]
  cases hlevel : levelOf level with
  | error f => exact Or.inl ⟨f, rfl, rfl⟩
  | ok l =>
    obtain ⟨hl, hwritten, hhandlers⟩ :=
      handleFile_spec { s with level := l, handlers := [(.console, l)] } l file
    -- Opening the file adds a handler and writes nothing; the first entry comes after it.
    have hlines : ∀ place, s.lines place = (handleFile
        { s with level := l, handlers := [(.console, l)] } l file).1.lines place := by
      intro place
      rw [lines, lines, hwritten]
    have hset : (handleFile
        { s with level := l, handlers := [(.console, l)] } l file).1.IsSetUp := by
      rw [IsSetUp, hl]
      exact hhandlers.imp_right id
    refine Or.inr ⟨l, rfl, ?_⟩
    dsimp only
    generalize handleFile { s with level := l, handlers := [(.console, l)] } l file = handled
      at hl hlines hset ⊢
    obtain ⟨t, _ | f⟩ := handled
    · refine ⟨level_tell.trans hl, hset.tell, fun place => ?_⟩
      rw [hlines]
      exact prefix_lines_tell t _ _ _ place
    · exact ⟨hl, hset, fun place => hlines place ▸ List.prefix_refl _⟩

/-! ## Runs -/

/-- What an act does: it gives the log its level, if it has one, and otherwise changes neither the
level nor the handlers. -/
theorem act_spec (s : State) (a : Act) :
    (match a.level? with
      | some l => (s.act a).level = l ∧ (s.act a).IsSetUp
      | none => (s.act a).level = s.level ∧ (s.act a).handlers = s.handlers) ∧
      ∀ place, s.lines place <+: (s.act a).lines place := by
  cases a with
  | tell logger level message =>
    exact ⟨⟨level_tell, handlers_tell⟩, prefix_lines_tell s logger level message⟩
  | setUp level file =>
    rw [Act.level?, act]
    rcases setUp_cases s level file with ⟨f, hlevel, h⟩ | ⟨l, hlevel, hl, hset, hlines⟩
    · rw [hlevel, h]
      exact ⟨⟨rfl, rfl⟩, fun _ => List.prefix_refl _⟩
    · rw [hlevel]
      exact ⟨⟨hl, hset⟩, hlines⟩

/-- **The last level given is the level of the log and of all its handlers.** Until one is given,
the log stays as it was. -/
theorem run_settled (s : State) (acts : List Act) :
    (s.run acts).level = (acts.filterMap Act.level?).getLast?.getD s.level ∧
      if acts.filterMap Act.level? = [] then (s.run acts).handlers = s.handlers
      else (s.run acts).IsSetUp := by
  induction acts generalizing s with
  | nil => exact ⟨rfl, rfl⟩
  | cons a rest ih =>
    obtain ⟨hlevel, hhandlers⟩ := ih (s.act a)
    have hstep := (act_spec s a).1
    rw [run, List.foldl_cons, ← run]
    cases ha : a.level? with
    | none =>
      rw [ha] at hstep
      rw [List.filterMap_cons_none ha, ← hstep.1, ← hstep.2]
      exact ⟨hlevel, hhandlers⟩
    | some l =>
      rw [ha] at hstep
      rw [List.filterMap_cons_some ha, List.getLast?_cons, if_neg (List.cons_ne_nil _ _)]
      -- Without a further level, the handlers of this act are the last ones.
      refine ⟨by rw [hlevel, hstep.1]; rfl, ?_⟩
      split at hhandlers
      · next hnone =>
        rw [hnone] at hlevel
        rw [IsSetUp, hhandlers, hlevel]
        exact hstep.2
      · exact hhandlers

/-- **No file loses a line.** -/
theorem prefix_lines_run (s : State) (acts : List Act) (place : List String) :
    s.lines place <+: (s.run acts).lines place := by
  induction acts generalizing s with
  | nil => exact List.prefix_refl _
  | cons a rest ih => exact ((act_spec s a).2 place).trans (ih (s.act a))

/-- **The file of the log gets the entries that the package logger lets through, in their
order.** -/
theorem lines_run_tell (hs : s.IsSetUp) (hfile : (.file place, s.level) ∈ s.handlers)
    (entries : List Line) :
    (s.run (entries.map fun e => .tell e.logger e.level e.message)).lines place =
      s.lines place ++ (entries.filter fun e => s.hears e.logger e.level).map
        fun e => { e with logger := loggerName e.logger } := by
  induction entries generalizing s with
  | nil => simp [run]
  | cons e rest ih =>
    have hrest := ih hs.tell (s := s.tell e.logger e.level e.message) (by simpa using hfile)
    simp only [hears_tell] at hrest
    rw [List.map_cons, run, List.foldl_cons, ← run, act, hrest, lines_tell hs, List.append_assoc]
    by_cases hears : s.hears e.logger e.level = true
    · simp [hears, hfile]
    · simp [hears]

example : (({} : State).run [.setUp (.str "info") (.str "run.log"), .tell "cli" warning "slow",
      .tell "cli" debug "step", .setUp (.bool true) .null, .tell "cli" warning "late"]).lines
    ["", "run.log"] = [⟨warning, "model_generator.cli", "slow"⟩] := by decide +kernel

end State
end Log
end ClassModel
