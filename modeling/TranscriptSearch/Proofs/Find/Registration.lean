import TranscriptSearch.Proofs.Find.PanelRuns
import TranscriptSearch.Find.Finder

namespace TranscriptSearch

/-- A change of what is registered. -/
inductive RegistryStep where
  | register (id : String) (panel : Nat)
  | unregister (id : String)

def RegistryStep.id : RegistryStep → String
  | .register id _ => id
  | .unregister id => id

def RegistryStep.panel? : RegistryStep → Option Nat
  | .register _ panel => some panel
  | .unregister _ => none

theorem lookup_cons_eq_ite (other : String) (entry : String × Nat)
    (entries : List (String × Nat)) :
    (entry :: entries).lookup other = if other = entry.1 then
      some entry.2 else entries.lookup other := by
  obtain ⟨key, value⟩ := entry
  rw [List.lookup_cons]
  by_cases hother : other = key
  · rw [beq_iff_eq.mpr hother, if_pos hother]
  · rw [beq_eq_false_iff_ne.mpr hother, if_neg hother]

theorem lookup_assign (id other : String) (value : Nat) (entries : List (String × Nat)) :
    (assign id value entries).lookup other =
      if other = id then some value else entries.lookup other := by
  induction entries with
  | nil => rw [assign, lookup_cons_eq_ite]
  | cons entry entries ih =>
      rw [assign]
      split
      · rw [lookup_cons_eq_ite]
      · split
        · next hid =>
            rw [lookup_cons_eq_ite, lookup_cons_eq_ite, ← hid]
            split <;> rfl
        · next hid =>
            rw [lookup_cons_eq_ite, lookup_cons_eq_ite, ih]
            split
            · next hother => rw [if_neg (hother ▸ Ne.symm hid)]
            · rfl

theorem lookup_filter_ne (id other : String) (entries : List (String × Nat)) :
    (entries.filter (·.1 ≠ id)).lookup other = if other = id then
      none else entries.lookup other := by
  induction entries with
  | nil => simp
  | cons entry entries ih =>
      by_cases hentry : entry.1 = id
      · rw [List.filter_cons_of_neg (by simpa using hentry), ih, lookup_cons_eq_ite, hentry]
        split <;> rfl
      · rw [List.filter_cons_of_pos (by simpa using hentry), lookup_cons_eq_ite, ih,
          lookup_cons_eq_ite]
        split
        · next hother => rw [if_neg (hother ▸ hentry)]
        · rfl

theorem assign_assign (id : String) (value : Nat) (entries : List (String × Nat)) :
    assign id value (assign id value entries) = assign id value entries := by
  have hfirst : ∀ rest, assign id value ((id, value) :: rest) = (id, value) :: rest := by
    intro rest
    rw [assign, if_neg (String.lt_irrefl id), if_pos rfl]
  induction entries with
  | nil => exact hfirst []
  | cons entry entries ih =>
      rw [assign]
      split
      · exact hfirst _
      · split
        · exact hfirst _
        · next hlt hid => rw [assign, if_neg hlt, if_neg hid, ih]

namespace Finder

variable {σ : Type} [RenderSurface σ]

def change (f : Finder σ) : RegistryStep → Finder σ
  | .register id panel => f.register id panel
  | .unregister id => (f.unregister id).2

def changes (f : Finder σ) (steps : List RegistryStep) : Finder σ :=
  steps.foldl change f

theorem registered_register (f : Finder σ) (id : String) (panel : Nat) :
    (f.register id panel).registered = assign id panel f.registered := by
  simp only [register]
  split <;> rfl

theorem number?_change (f : Finder σ) (step : RegistryStep) (id : String) :
    (f.change step).number? id = if id = step.id then step.panel? else f.number? id := by
  cases step with
  | register other panel =>
      rw [change, number?, registered_register]
      exact lookup_assign other id panel f.registered
  | unregister other =>
      rw [change, unregister]
      split
      · next hnone =>
          split
          · next hid =>
              rw [hid]
              exact hnone
          · rfl
      · exact lookup_filter_ne other id f.registered

/-- A change releases the panel that was registered under its identifier, and touches no other. -/
theorem panels_change (f : Finder σ) (step : RegistryStep) :
    (f.change step).panels = match f.number? step.id with
      | some old => f.panels.modify old .unmount
      | none => f.panels := by
  cases step with
  | register id panel =>
      change (f.register id panel).panels = match f.number? id with | some old => _ | none => _
      simp only [register]
      cases f.number? id <;> rfl
  | unregister id =>
      change (f.unregister id).2.panels = match f.number? id with | some old => _ | none => _
      rw [unregister]
      cases f.number? id <;> rfl

/-- What of the panels the counts depend on. -/
def searched (f : Finder σ) : List (Transcript × Option KeptCounts) :=
  f.panels.map fun p => (p.transcript, p.kept)

omit [RenderSurface σ] in
theorem modifyGet_count_congr {f g : Finder σ} (h : f.searched = g.searched) (panel : Nat)
    (term : String) :
    (f.modifyGet panel (·.count term)).1 = (g.modifyGet panel (·.count term)).1 ∧
      (f.modifyGet panel (·.count term)).2.searched =
        (g.modifyGet panel (·.count term)).2.searched := by
  have hset : ∀ (panels : List (FindPanel σ)) (p : FindPanel σ),
      (panels.set panel p).map (fun p => (p.transcript, p.kept)) =
        (panels.map fun p => (p.transcript, p.kept)).set panel (p.transcript, p.kept) :=
    fun panels p => List.map_set
  have hpanel := congrArg (·[panel]?) h
  simp only [searched, List.getElem?_map] at hpanel
  rw [modifyGet, modifyGet]
  cases hf : f.panels[panel]? with
  | none =>
      rw [hf, Option.map_none, eq_comm, Option.map_eq_none_iff] at hpanel
      rw [hpanel]
      exact ⟨rfl, h⟩
  | some p =>
      rw [hf, Option.map_some, eq_comm, Option.map_eq_some_iff] at hpanel
      obtain ⟨q, hq, hsame⟩ := hpanel
      obtain ⟨htranscript, hkept⟩ := Prod.mk.inj hsame
      rw [hq]
      refine ⟨?_, ?_⟩
      · simp only [FindPanel.count, htranscript, hkept]
      · rw [searched, searched] at h
        simp only [searched, hset, FindPanel.count, htranscript, hkept, h]

def countEntry (term : String) (counted : Nat × Finder σ) (entry : String × Nat) :
    Nat × Finder σ :=
  let counting := counted.2.modifyGet entry.2 (·.count term)
  (counted.1 + counting.1.getD 0, counting.2)

omit [RenderSurface σ] in
theorem countAll_eq_foldl (f : Finder σ) (term : String) :
    f.countAll term = f.registered.foldl (countEntry term) (0, f) := rfl

omit [RenderSurface σ] in
theorem countAll_congr {f g : Finder σ} (hregistered : f.registered = g.registered)
    (h : f.searched = g.searched) (term : String) :
    (f.countAll term).1 = (g.countAll term).1 := by
  -- Counting keeps counts in the panels, so the two finders change as the entries are gone
  -- through.
  have hfold : ∀ (entries : List (String × Nat)) (total : Nat) (f g : Finder σ),
      f.searched = g.searched →
        (entries.foldl (countEntry term) (total, f)).1 =
          (entries.foldl (countEntry term) (total, g)).1 := by
    intro entries
    induction entries with
    | nil => exact fun _ _ _ _ => rfl
    | cons entry entries ih =>
        intro total f g h
        obtain ⟨hcount, hafter⟩ := modifyGet_count_congr h entry.2 term
        simp only [List.foldl_cons, countEntry, hcount]
        exact ih _ _ _ hafter
  rw [countAll_eq_foldl, countAll_eq_foldl, hregistered]
  exact hfold g.registered 0 f g h

omit [RenderSurface σ] in
theorem countFor_congr {f g : Finder σ} (hregistered : f.registered = g.registered)
    (h : f.searched = g.searched) (id term : String) :
    (f.countFor id term).1 = (g.countFor id term).1 := by
  have hnumber : f.number? id = g.number? id := congrArg (·.lookup id) hregistered
  rw [countFor, countFor, hnumber]
  cases g.number? id with
  | none => rfl
  | some panel => exact (modifyGet_count_congr h panel term).1

theorem searched_modify_unmount (f : Finder σ) (panel : Nat) :
    (f.modify panel .unmount).searched = f.searched := by
  apply List.ext_getElem?
  intro n
  simp only [searched, modify, List.getElem?_map, List.getElem?_modify]
  cases f.panels[n]? with
  | none => rfl
  | some p =>
      by_cases hpanel : panel = n
      · simp only [hpanel, if_true]
        rfl
      · simp only [hpanel, if_false]
        rfl

theorem goTo_modify_unmount {f : Finder σ} {id : String} {panel : Nat}
    (h : f.number? id = some panel) (term : String) (n : Nat) :
    ((f.modify panel .unmount).goTo id term n).1.progress =
      .done (.notFound .panelUnavailable) := by
  have hnumber : (f.modify panel .unmount).number? id = some panel := h
  rw [goTo, hnumber]
  cases hp : f.panels[panel]? with
  | none => simp [modifyGet, modify, hp]
  | some p =>
      have hgoTo : (p.unmount.goTo term n).1 = .done (.notFound .panelUnavailable) := by
        rw [FindPanel.goTo]
        rfl
      simp [modifyGet, modify, hp, hgoTo]

theorem register_register (f : Finder σ) (id : String) (panel : Nat) :
    (f.register id panel).register id panel = (f.register id panel).modify panel .unmount := by
  have hnumber : (f.register id panel).number? id = some panel :=
    (f.number?_change (.register id panel) id).trans (if_pos rfl)
  have hregistered : assign id panel (f.register id panel).registered =
      (f.register id panel).registered := by
    rw [registered_register, assign_assign]
  generalize f.register id panel = once at hnumber hregistered
  simp only [register, hnumber, hregistered]

/-- Whether a change releases a panel that is registered when the change has been made. -/
def ReleasesRegistered (f : Finder σ) (step : RegistryStep) : Prop :=
  ∃ old id, f.number? step.id = some old ∧ (f.change step).number? id = some old

/-- Whether every registered panel is registered under one identifier and has not been
released. -/
structure IsOrderly (f : Finder σ) : Prop where
  apart : ∀ a b panel, f.number? a = some panel → f.number? b = some panel → a = b
  mounted : ∀ id panel, f.number? id = some panel →
    ∃ p, f.panels[panel]? = some p ∧ p.unmounted = false

/-- Whether a panel that a change registers is registered nowhere and has not been released. -/
def AddsNew (f : Finder σ) (step : RegistryStep) : Prop :=
  ∀ panel, step.panel? = some panel → (∀ id, f.number? id ≠ some panel) ∧
    ∃ p, f.panels[panel]? = some p ∧ p.unmounted = false

def OnlyAddsNew (f : Finder σ) : List RegistryStep → Prop
  | [] => True
  | step :: steps => f.AddsNew step ∧ (f.change step).OnlyAddsNew steps

def ReleasesRegisteredIn (f : Finder σ) : List RegistryStep → Prop
  | [] => False
  | step :: steps => f.ReleasesRegistered step ∨ (f.change step).ReleasesRegisteredIn steps

theorem releasesRegistered_iff (f : Finder σ) (step : RegistryStep) :
    f.ReleasesRegistered step ↔ ∃ old, f.number? step.id = some old ∧
      (step.panel? = some old ∨ ∃ id, id ≠ step.id ∧ f.number? id = some old) := by
  constructor
  · rintro ⟨old, id, hold, hafter⟩
    refine ⟨old, hold, ?_⟩
    rw [number?_change] at hafter
    split at hafter
    · exact .inl hafter
    · next hid => exact .inr ⟨id, hid, hafter⟩
  · rintro ⟨old, hold, hagain | ⟨id, hid, hother⟩⟩
    · refine ⟨old, step.id, hold, ?_⟩
      rwa [number?_change, if_pos rfl]
    · refine ⟨old, id, hold, ?_⟩
      rwa [number?_change, if_neg hid]

namespace IsOrderly

variable {f : Finder σ} {step : RegistryStep}

theorem not_releasesRegistered (h : f.IsOrderly) (hnew : f.AddsNew step) :
    ¬ f.ReleasesRegistered step := by
  rw [releasesRegistered_iff]
  rintro ⟨old, hold, hagain | ⟨id, hid, hother⟩⟩
  · exact (hnew old hagain).1 step.id hold
  · exact hid (h.apart id step.id old hother hold)

theorem change (h : f.IsOrderly) (hnew : f.AddsNew step) : (f.change step).IsOrderly := by
  -- A panel that is registered after the change is not the one released, so it is as it was.
  have hkept : ∀ id panel p, (f.change step).number? id = some panel → f.panels[panel]? = some p →
      (f.change step).panels[panel]? = some p := by
    intro id panel p hafter hp
    rw [panels_change]
    cases hold : f.number? step.id with
    | none => exact hp
    | some old =>
        have hne : old ≠ panel := by
          rintro rfl
          exact h.not_releasesRegistered hnew ⟨old, id, hold, hafter⟩
        simp [hne, hp]
  refine ⟨?_, ?_⟩
  · intro a b panel ha hb
    rw [number?_change] at ha hb
    split at ha
    · next hida =>
        split at hb
        · next hidb => rw [hida, hidb]
        · exact absurd hb ((hnew panel ha).1 b)
    · split at hb
      · exact absurd ha ((hnew panel hb).1 a)
      · exact h.apart a b panel ha hb
  · intro id panel hafter
    have hmounted : ∃ p, f.panels[panel]? = some p ∧ p.unmounted = false := by
      rw [number?_change] at hafter
      split at hafter
      · exact (hnew panel hafter).2
      · exact h.mounted id panel hafter
    obtain ⟨p, hp, hfalse⟩ := hmounted
    exact ⟨p, hkept id panel p hafter hp, hfalse⟩

theorem changes {steps : List RegistryStep} (h : f.IsOrderly) (hnew : f.OnlyAddsNew steps) :
    (f.changes steps).IsOrderly ∧ ¬ f.ReleasesRegisteredIn steps := by
  induction steps generalizing f with
  | nil => exact ⟨h, id⟩
  | cons step steps ih =>
      obtain ⟨hafter, hrest⟩ := ih (h.change hnew.1) hnew.2
      refine ⟨hafter, ?_⟩
      rintro (hfirst | hlater)
      · exact h.not_releasesRegistered hnew.1 hfirst
      · exact hrest hlater

end IsOrderly

/-- Registering a panel twice changes no identifier and no count, but it releases the panel, and
every attempt to go to an occurrence in it fails from then on.  A change releases a registered
panel just if it registers the panel again under its identifier or if the panel is registered
under another one too.  So in every run of changes in which only new panels are registered, no
panel is released while it is registered. -/
theorem releases_registered_again (f : Finder σ) :
    (∀ id panel, let once := f.register id panel
      let twice := once.register id panel
      twice = once.modify panel .unmount ∧ twice.ids = once.ids ∧
        (∀ term, (twice.countAll term).1 = (once.countAll term).1 ∧
          ∀ other, (twice.countFor other term).1 = (once.countFor other term).1) ∧
        ∀ term n, (twice.goTo id term n).1.progress = .done (.notFound .panelUnavailable)) ∧
      (∀ step, f.ReleasesRegistered step ↔ ∃ old, f.number? step.id = some old ∧
        (step.panel? = some old ∨ ∃ id, id ≠ step.id ∧ f.number? id = some old)) ∧
      ∀ steps, f.IsOrderly → f.OnlyAddsNew steps →
        (f.changes steps).IsOrderly ∧ ¬ f.ReleasesRegisteredIn steps := by
  refine ⟨?_, f.releasesRegistered_iff, fun steps => IsOrderly.changes⟩
  intro id panel once twice
  have hnumber : once.number? id = some panel :=
    (f.number?_change (.register id panel) id).trans (if_pos rfl)
  have htwice : twice = once.modify panel .unmount := f.register_register id panel
  have hsearched : twice.searched = once.searched := by
    rw [htwice]
    exact once.searched_modify_unmount panel
  have hregistered : twice.registered = once.registered := by
    rw [htwice]
    rfl
  refine ⟨htwice, congrArg (List.map Prod.fst) hregistered, ?_, ?_⟩
  · intro term
    exact ⟨countAll_congr hregistered hsearched term,
      fun other => countFor_congr hregistered hsearched other term⟩
  · rw [htwice]
    exact goTo_modify_unmount hnumber

/-- Two panels that are registered nowhere. -/
def sparePanels : Finder PagedSurface :=
  ⟨[heldPanel, heldPanel], [], "main", .new 0⟩

theorem releases_registered_again_replaced :
    let steps : List RegistryStep := [.register "main" 0, .register "main" 1, .unregister "main"]
    sparePanels.IsOrderly ∧ sparePanels.OnlyAddsNew steps ∧
      (sparePanels.changes steps).IsOrderly ∧ ¬ sparePanels.ReleasesRegisteredIn steps ∧
      (sparePanels.changes steps).panels.map FindPanel.unmounted = [true, true] := by
  intro steps
  have horderly : sparePanels.IsOrderly :=
    ⟨fun a b panel ha _ => absurd ha (by simp [number?, sparePanels]),
      fun id panel hid => absurd hid (by simp [number?, sparePanels])⟩
  have hnew : sparePanels.OnlyAddsNew steps := by
    refine ⟨?_, ?_, ?_, trivial⟩
    · rintro panel ⟨⟩
      exact ⟨fun id => by simp [number?, sparePanels], heldPanel, rfl, rfl⟩
    · rintro panel ⟨⟩
      refine ⟨fun id => ?_, heldPanel, rfl, rfl⟩
      rw [number?_change]
      split
      · simp [RegistryStep.panel?]
      · simp [number?, sparePanels]
    · rintro panel ⟨⟩
  obtain ⟨-, -, hrun⟩ := sparePanels.releases_registered_again
  obtain ⟨hafter, hnone⟩ := hrun steps horderly hnew
  exact ⟨horderly, hnew, hafter, hnone, by decide +kernel⟩

/-- The first occurrence in a panel is found when the panel is registered, and no more when it is
registered again. -/
theorem registered_again_unmounted :
    let once := sparePanels.register "main" 0
    let twice := once.register "main" 0
    (∃ target, (once.goTo "main" "match" 1).1.progress = .done (.found target)) ∧
      twice.number? "main" = some 0 ∧ twice.panels.map FindPanel.unmounted = [true, false] ∧
      (twice.goTo "main" "match" 1).1.progress = .done (.notFound .panelUnavailable) := by
  refine ⟨⟨⟨0, "event-0", 1, ⟨"event-0", 0, 1, 0, 5⟩⟩, by decide +kernel⟩, ?_⟩
  decide +kernel

end Finder

end TranscriptSearch
