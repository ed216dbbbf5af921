import TranscriptSearch.Proofs.Find.LandingRounds
import TranscriptSearch.Surface.Paged

namespace TranscriptSearch

open RenderSurface

variable {σ : Type} [RenderSurface σ]

/-- What is known of a surface that shows a fixed number of occurrences of each item once the item
has been made visible.  The states that the surface can be in are `ready`. -/
structure ShowsFixedCounts (t : Transcript) (term : String) (shown : Nat → Nat)
    (settle : Nat → σ → σ) (ready : σ → Prop) (visible : σ → Nat → Prop) : Prop where
  ready_setProgrammatic : ∀ s programmatic, ready s → ready (setProgrammatic s programmatic)
  ready_scrollTo : ∀ s index align, ready s → ready (scrollTo s t index align)
  ready_occurrenceCount : ∀ s itemId, ready s → ready (occurrenceCount s t itemId term).2
  /-- An item that the window holds has been made visible. -/
  visible_of_window : ∀ s index, ready s → (window s).contains index = true → visible s index
  visible_of_announcedWindow : ∀ s index, ready s → (announcedWindow s).contains index = true →
    visible s index
  visible_setProgrammatic : ∀ s programmatic index, ready s → visible s index →
    visible (setProgrammatic s programmatic) index
  visible_occurrenceCount : ∀ s itemId index, ready s → visible s index →
    visible (occurrenceCount s t itemId term).2 index
  /-- A wait for an item is over when the item has been made visible. -/
  settled : ∀ s index waiting, ready s → index < t.size →
    ensureVisible s t index false = (none, waiting) →
      ready (settle index waiting) ∧ visible (settle index waiting) index
  count_eq : ∀ s index item, ready s → visible s index → t.item? index = some item →
    (occurrenceCount s t item.id term).1 = shown index
  isSome_locate_iff : ∀ s index item n, ready s → visible s index → t.item? index = some item →
    ((locate s t item.id term n).1.isSome = true ↔ 1 ≤ n ∧ n ≤ shown index)

namespace ShowsFixedCounts

variable {t : Transcript} {term : String} {shown : Nat → Nat} {settle : Nat → σ → σ}
  {ready : σ → Prop} {visible : σ → Nat → Prop} {s : σ} {index : Nat}

theorem reveals (laws : ShowsFixedCounts t term shown settle ready visible) (hready : ready s)
    (hindex : index < t.size) :
    ready (reveal t settle s index) ∧ visible (reveal t settle s index) index := by
  rw [reveal]
  split
  · next how seen hseen =>
      rw [ensureVisible, if_neg Bool.false_ne_true] at hseen
      split at hseen
      · next hcontains =>
          obtain ⟨-, rfl⟩ := Prod.mk.inj hseen
          exact ⟨hready, laws.visible_of_window s index hready hcontains⟩
      · simp only at hseen
        split at hseen
        · next hcontains =>
            obtain ⟨-, rfl⟩ := Prod.mk.inj hseen
            have hscrolled := laws.ready_scrollTo _ index .center
              (laws.ready_setProgrammatic s true hready)
            have hvisible := laws.visible_of_announcedWindow _ index hscrolled hcontains
            exact ⟨laws.ready_setProgrammatic _ false hscrolled,
              laws.visible_setProgrammatic _ false index hscrolled hvisible⟩
        · simp at hseen
  · next waiting hwaiting =>
      obtain ⟨hsettled, hvisible⟩ := laws.settled s index waiting hready hindex hwaiting
      exact ⟨laws.ready_setProgrammatic _ false hsettled,
        laws.visible_setProgrammatic _ false index hsettled hvisible⟩

end ShowsFixedCounts

theorem SearchTerm.isSome_locate?_iff (term : SearchTerm) (segments : List String) (n : Nat) :
    (term.locate? segments n).isSome = true ↔ 1 ≤ n ∧ n ≤ term.countIn segments := by
  have hlength : (term.occurrences segments).length = term.countIn segments :=
    term.length_occurrencesFrom 0 segments
  rw [locate?]
  split
  · simp
    omega
  · rw [Option.isSome_iff_ne_none, ne_eq, List.getElem?_eq_none_iff, hlength]
    omega

namespace PagedSurface

variable {s : PagedSurface} {t : Transcript} {index : Nat}

/-- The rows that an item shows when it is in the window. -/
def shownRows (s : PagedSurface) (item : Item) : List String :=
  (s.replacedRows.lookup item.id).getD item.texts

/-- The number of occurrences that an item shows when it is in the window. -/
def shownCount (s : PagedSurface) (t : Transcript) (term : SearchTerm) (index : Nat) : Nat :=
  match t.item? index with
  | some item => term.countIn (s.shownRows item)
  | none => 0

theorem rows?_eq (hids : (t.items.map (·.id)).Nodup) {item : Item}
    (hitem : t.item? index = some item) (hwindow : s.window.contains index = true) :
    s.rows? t item.id = some (index, s.shownRows item) := by
  simp only [rows?, Transcript.indexOf?_eq hids hitem, hwindow, Bool.or_true, if_true, hitem,
    shownRows, Option.bind_eq_bind, Option.bind_some]
  cases s.replacedRows.lookup item.id <;> rfl

theorem centerOn_contains (s : PagedSurface) (hpage : 0 < s.page) (hindex : index < t.size) :
    (s.centerOn t index).window.contains index = true := by
  change VisibleWindow.contains ⟨_, min (_ + s.page) t.size⟩ index = true
  simp only [VisibleWindow.contains, Bool.and_eq_true, decide_eq_true_eq]
  omega

/-- Whether a surface shows what another one shows, with as many items in its window. -/
structure ShowsLike (s₀ s : PagedSurface) : Prop where
  page_eq : s.page = s₀.page
  replacedRows_eq : s.replacedRows = s₀.replacedRows
  claimedCounts_eq : s.claimedCounts = s₀.claimedCounts

variable {s₀ : PagedSurface}

theorem ShowsLike.scrollTo (h : s₀.ShowsLike s) (t : Transcript) (index : Nat) :
    s₀.ShowsLike (s.scrollTo t index) := by
  rw [PagedSurface.scrollTo]
  split
  · exact ⟨h.page_eq, h.replacedRows_eq, h.claimedCounts_eq⟩
  · exact ⟨h.page_eq, h.replacedRows_eq, h.claimedCounts_eq⟩

theorem ShowsLike.settled (h : s₀.ShowsLike s) (hpage : 0 < s₀.page)
    (hindex : index < t.size) {waiting : PagedSurface}
    (hwaiting : ensureVisible s t index false = (none, waiting)) :
    s₀.ShowsLike (waiting.settle t) ∧ (waiting.settle t).window.contains index = true := by
  rw [← h.page_eq] at hpage
  rw [ensureVisible, if_neg Bool.false_ne_true] at hwaiting
  split at hwaiting
  · simp at hwaiting
  · simp only at hwaiting
    split at hwaiting
    · simp at hwaiting
    · next hoff =>
        obtain ⟨-, rfl⟩ := Prod.mk.inj hwaiting
        change ¬ ((s.setProgrammatic true).scrollTo t index).window.contains index = true at hoff
        change s₀.ShowsLike (((s.setProgrammatic true).scrollTo t index).settle t) ∧
          (((s.setProgrammatic true).scrollTo t index).settle t).window.contains index = true
        rw [PagedSurface.scrollTo] at hoff ⊢
        split at hoff
        · next hholds =>
            simp only [if_pos hholds]
            exact ⟨⟨h.page_eq, h.replacedRows_eq, h.claimedCounts_eq⟩,
              centerOn_contains _ hpage hindex⟩
        · exact absurd (centerOn_contains _ hpage hindex) hoff

theorem showsFixedCounts (hids : (t.items.map (·.id)).Nodup) {text : String} {term : SearchTerm}
    (hterm : SearchTerm.ofString? text = some term) (hclaimed : s₀.claimedCounts = [])
    (hpage : 0 < s₀.page) :
    ShowsFixedCounts t text (s₀.shownCount t term) (fun _ s => s.settle t) s₀.ShowsLike
      fun s index => s.window.contains index = true where
  ready_setProgrammatic _ _ h := ⟨h.page_eq, h.replacedRows_eq, h.claimedCounts_eq⟩
  ready_scrollTo _ index _ h := h.scrollTo t index
  ready_occurrenceCount _ _ h := h
  visible_of_window _ _ _ hwindow := hwindow
  visible_of_announcedWindow _ _ _ hwindow := hwindow
  visible_setProgrammatic _ _ _ _ hwindow := hwindow
  visible_occurrenceCount _ _ _ _ hwindow := hwindow
  settled _ _ _ h hindex hwaiting := h.settled hpage hindex hwaiting
  count_eq s index item h hwindow hitem := by
    have hrows : s.shownRows item = s₀.shownRows item := by
      rw [shownRows, shownRows, h.replacedRows_eq]
    change s.occurrenceCount t item.id text = _
    simp only [occurrenceCount, h.claimedCounts_eq, hclaimed, List.lookup_nil, hterm,
      rows?_eq hids hitem hwindow, shownCount, hitem, hrows]
  isSome_locate_iff s index item n h hwindow hitem := by
    have hrows : s.shownRows item = s₀.shownRows item := by
      rw [shownRows, shownRows, h.replacedRows_eq]
    change (s.locate? t item.id text n).isSome = true ↔ _
    simp only [locate?, hterm, rows?_eq hids hitem hwindow, shownCount, hitem, hrows,
      Option.bind_eq_bind, Option.bind_some]
    rw [← SearchTerm.isSome_locate?_iff]
    cases term.locate? (s₀.shownRows item) n <;> rfl

end PagedSurface

end TranscriptSearch
