import TranscriptSearch.Proofs.Transcript.Growth

namespace TranscriptSearch

/-- The span that an event begins or ends. -/
def Event.span? : Event → Option String
  | .spanBegin id .. => some id
  | .spanEnd id => some id
  | _ => none

def Event.makesItem : Event → Bool
  | .spanEnd _ => false
  | _ => true

namespace Transcript

variable {t : Transcript} {source : SourceEvent} {id other : String} {leaked outer : List String}

theorem closeSpan_of_not_mem (h : id ∉ outer) : closeSpan id outer = outer :=
  if_neg h

theorem closeSpan_append_cons (h : id ∉ leaked) :
    closeSpan id (leaked ++ id :: outer) = outer := by
  have hleaked : ∀ span ∈ leaked, decide (span ≠ id) = true := by
    intro span hspan
    exact decide_eq_true fun heq => h (heq ▸ hspan)
  rw [closeSpan, if_pos (List.mem_append_right _ List.mem_cons_self),
    List.dropWhile_append_of_pos hleaked, List.dropWhile_cons_of_neg (by simp),
      List.drop_succ_cons,
    List.drop_zero]

theorem closeSpan_append (h : id ∉ outer) :
    closeSpan id (leaked ++ outer) = closeSpan id leaked ++ outer := by
  by_cases hmem : id ∈ leaked
  · obtain ⟨inner, around, rfl, hinner⟩ := List.eq_append_cons_of_mem hmem
    rw [List.append_assoc, List.cons_append, closeSpan_append_cons hinner,
      closeSpan_append_cons hinner]
  · rw [closeSpan_of_not_mem hmem, closeSpan_of_not_mem]
    exact fun hopen => (List.mem_append.mp hopen).elim hmem h

theorem closeSpan_subset (id : String) (openSpans : List String) :
    closeSpan id openSpans ⊆ openSpans := by
  rw [closeSpan]
  split
  · exact List.Subset.trans (List.drop_subset _ _) (List.dropWhile_subset _)
  · exact List.Subset.refl _

def itemOf (t : Transcript) (source : SourceEvent) : Item :=
  ⟨itemId source t.position, t.openSpans.length, source.timestamp, source.event⟩

theorem push_cases (t : Transcript) (source : SourceEvent) :
    (∃ id, source.event = .spanEnd id ∧ t.push source =
      { t with openSpans := closeSpan id t.openSpans, position := t.position + 1 }) ∨
    (∃ id name kind, source.event = .spanBegin id name kind ∧ t.push source =
      { t with
        items := t.items ++ [t.itemOf source]
        openSpans := id :: t.openSpans
        position := t.position + 1 }) ∨
    (source.event.span? = none ∧ source.event.makesItem = true ∧ t.push source =
      { t with items := t.items ++ [t.itemOf source], position := t.position + 1 }) := by
  cases hevent : source.event with
  | spanEnd id => exact .inl ⟨id, rfl, by simp only [push, hevent]⟩
  | spanBegin id name kind =>
      exact .inr (.inl ⟨id, name, kind, rfl, by simp only [push, itemOf, hevent]⟩)
  | _ => exact .inr (.inr ⟨rfl, rfl, by simp only [push, itemOf, hevent]⟩)

theorem items_push (t : Transcript) (source : SourceEvent) :
    (t.push source).items =
      t.items ++ if source.event.makesItem then [t.itemOf source] else [] := by
  rcases t.push_cases source with ⟨id, hevent, hpush⟩ | ⟨id, name, kind, hevent, hpush⟩ |
    ⟨-, hitem, hpush⟩
  · rw [hpush, hevent]
    exact (List.append_nil _).symm
  · rw [hpush, hevent]
    rfl
  · rw [hpush, if_pos hitem]

/-- Whether a span is open within others, and no other span of its identifier is open inside
it. -/
def IsWithin (t : Transcript) (id : String) (outer : List String) : Prop :=
  ∃ leaked, t.openSpans = leaked ++ id :: outer ∧ id ∉ leaked

namespace IsWithin

theorem of_spanBegin {name : String} {kind : Option String}
    (h : source.event = .spanBegin id name kind) : (t.push source).IsWithin id t.openSpans :=
  ⟨[], by simp only [Transcript.push, h, List.nil_append], List.not_mem_nil⟩

theorem lt_length (h : t.IsWithin id outer) : outer.length < t.openSpans.length := by
  obtain ⟨leaked, hopen, -⟩ := h
  rw [hopen, List.length_append, List.length_cons]
  omega

theorem push (h : t.IsWithin id outer)
    (hsource : ∀ other ∈ source.event.span?, other ∉ id :: outer) :
    (t.push source).IsWithin id outer := by
  obtain ⟨leaked, hopen, hleaked⟩ := h
  rcases t.push_cases source with ⟨other, hevent, hpush⟩ | ⟨other, name, kind, hevent, hpush⟩ |
    ⟨-, -, hpush⟩
  · have hother := hsource other (by rw [hevent]; rfl)
    rw [hpush]
    exact ⟨closeSpan other leaked, by rw [hopen, closeSpan_append hother],
      fun hmem => hleaked (closeSpan_subset other leaked hmem)⟩
  · have hother := hsource other (by rw [hevent]; rfl)
    rw [hpush]
    refine ⟨other :: leaked, by rw [hopen, List.cons_append], fun hmem => ?_⟩
    rcases List.mem_cons.mp hmem with rfl | hmem
    · exact hother List.mem_cons_self
    · exact hleaked hmem
  · rw [hpush]
    exact ⟨leaked, hopen, hleaked⟩

/-- What names neither a span nor one around it leaves it open, and makes items that are inside
it. -/
theorem append {body : List SourceEvent} (h : t.IsWithin id outer)
    (hbody : ∀ source ∈ body, ∀ other ∈ source.event.span?, other ∉ id :: outer) :
    (t.append body).IsWithin id outer ∧ ∃ inner, (t.append body).items = t.items ++ inner ∧
      inner.map Item.event = (body.map SourceEvent.event).filter Event.makesItem ∧
      ∀ item ∈ inner, outer.length < item.depth := by
  induction body generalizing t with
  | nil => exact ⟨h, [], (List.append_nil _).symm, rfl, nofun⟩
  | cons source body ih =>
      obtain ⟨hsource, hbody⟩ := List.forall_mem_cons.mp hbody
      obtain ⟨hwithin, inner, hitems, hevents, hdepth⟩ := ih (h.push hsource) hbody
      refine ⟨hwithin, (if source.event.makesItem then [t.itemOf source] else []) ++
        inner, ?_, ?_, ?_⟩
      · rw [← List.append_assoc, ← items_push]
        exact hitems
      · rw [List.map_append, hevents, List.map_cons, List.filter_cons]
        split
        · rfl
        · rfl
      · intro item hitem
        rcases List.mem_append.mp hitem with hnew | hlater
        · split at hnew
          · rw [List.mem_singleton.mp hnew]
            exact h.lt_length
          · exact absurd hnew List.not_mem_nil
        · exact hdepth item hlater

theorem openSpans_push (h : t.IsWithin id outer) (hsource : source.event = .spanEnd id) :
    (t.push source).openSpans = outer := by
  obtain ⟨leaked, hopen, hleaked⟩ := h
  simp only [Transcript.push, hsource, hopen, closeSpan_append_cons hleaked]

end IsWithin

/-- A span that is begun and ended leaves the spans open that were open before, and all items in
between are deeper than the one that began it, provided that nothing in between names it or a span
around it. -/
theorem append_span {first last : SourceEvent} {name : String} {kind : Option String}
    {body : List SourceEvent} {batches : List (List SourceEvent)}
    (hfirst : first.event = .spanBegin id name kind) (hlast : last.event = .spanEnd id)
    (hbody : ∀ source ∈ body, ∀ other ∈ source.event.span?, other ∉ id :: t.openSpans)
    (hbatches : batches.flatten = first :: body ++ [last]) :
    (batches.foldl append t).openSpans = t.openSpans ∧
      ∃ item inner, (batches.foldl append t).items = t.items ++ item :: inner ∧
        item.event = first.event ∧ item.depth = t.openSpans.length ∧
        inner.map Item.event = (body.map SourceEvent.event).filter Event.makesItem ∧
        ∀ deeper ∈ inner, t.openSpans.length < deeper.depth := by
  have hrun : batches.foldl append t = ((t.push first).append body).push last := by
    have happend : batches.foldl append t = t.append batches.flatten := List.foldl_flatten.symm
    rw [happend, hbatches, append_append]
    rfl
  obtain ⟨hwithin, inner, hitems, hevents, hdepth⟩ :=
    (IsWithin.of_spanBegin (t := t) hfirst).append hbody
  have hlisted : (((t.push first).append body).push last).items =
      t.items ++ t.itemOf first :: inner := by
    rw [items_push, hitems, items_push, hfirst, hlast]
    simp [Event.makesItem]
  rw [hrun]
  exact ⟨hwithin.openSpans_push hlast, t.itemOf first, inner, hlisted, rfl, rfl, hevents, hdepth⟩

/-- A span within a span of the same identifier, with an end that belongs to no span and a span
that is left open. -/
theorem append_span_nested :
    let outer : Transcript := .ofEvents [⟨none, none, .spanBegin "s" "turn" none⟩]
    let body : List SourceEvent :=
      [⟨none, none, .spanEnd "gone"⟩, ⟨none, none, .spanBegin "left" "turn" none⟩,
        ⟨none, none, .input "a"⟩]
    let first : SourceEvent := ⟨none, none, .spanBegin "s" "turn" none⟩
    let last : SourceEvent := ⟨none, none, .spanEnd "s"⟩
    let batches := [[first] ++ body.take 1, [], body.drop 1, [last]]
    (∀ source ∈ body, ∀ other ∈ source.event.span?, other ∉ "s" :: outer.openSpans) ∧
      batches.flatten = first :: body ++ [last] ∧
      (batches.foldl append outer).items.map Item.depth = [0, 1, 2, 3] ∧
      (batches.foldl append outer).openSpans = ["s"] := by
  intro outer body first last batches
  have hbody : ∀ source ∈ body, ∀ other ∈ source.event.span?, other ∉ "s" :: outer.openSpans := by
    decide
  exact ⟨hbody, rfl, by decide, (append_span rfl rfl hbody rfl).1⟩

end Transcript

end TranscriptSearch
