import TranscriptSearch.Proofs.Match.FoldedScan
import TranscriptSearch.Proofs.Transcript.Growth
import TranscriptSearch.Transcript.Counts

namespace TranscriptSearch

/-- Kept counts that are right about a transcript, which is in their epoch or a later one. -/
structure KeptCounts.IsRightOf (kept : KeptCounts) (t : Transcript) : Prop where
  epoch_le : kept.epoch ≤ t.epoch
  total_eq : kept.total = sumOf kept.counts
  /-- In their own epoch they begin the counts of every term that has their key. -/
  prefix_counts : kept.epoch = t.epoch →
    ∀ term : SearchTerm, term.key = kept.key → kept.counts <+: t.itemCounts term

namespace KeptCounts

/-- Right counts stay right when the transcript grows or is reset. -/
theorem IsRightOf.later {kept : KeptCounts} {earlier later : Transcript}
    (h : kept.IsRightOf earlier) (hlater : later.Extends earlier) : kept.IsRightOf later where
  epoch_le := Nat.le_trans h.epoch_le hlater.epoch_le
  total_eq := h.total_eq
  prefix_counts hepoch term hkey := by
    have hkept := h.epoch_le
    have hearlier := hlater.epoch_le
    have hcounts := h.prefix_counts (by omega) term hkey
    exact hcounts.trans ((hlater.prefix_items (by omega)).map _)

end KeptCounts

namespace Transcript

theorem itemCounts_eq_of_key_eq {a b : SearchTerm} (h : a.key = b.key) (t : Transcript) :
    t.itemCounts a = t.itemCounts b := by
  simp only [itemCounts, SearchTerm.countIn_eq_of_key_eq h]

/-- The number of occurrences in the whole transcript. -/
def total (t : Transcript) (term : String) : Nat :=
  match SearchTerm.ofString? term with
  | none => 0
  | some term => sumOf (t.itemCounts term)

theorem countsFrom_of_isPrefix {t : Transcript} {term : SearchTerm} {counts : List Nat}
    (h : counts <+: t.itemCounts term) : t.countsFrom term counts = t.itemCounts term := by
  obtain ⟨rest, hrest⟩ := h
  have hdrop : (t.itemCounts term).drop counts.length = rest := by
    rw [← hrest, List.drop_left]
  rw [countsFrom, List.map_drop]
  rw [itemCounts] at hdrop hrest
  rw [hdrop, hrest, itemCounts]

theorem prefix_keptPrefix {t : Transcript} {kept : Option KeptCounts}
    (h : ∀ counts ∈ kept, counts.IsRightOf t) (term : SearchTerm) :
    t.keptPrefix term kept <+: t.itemCounts term := by
  cases kept with
  | none => exact List.nil_prefix
  | some kept =>
      rw [keptPrefix]
      split
      · next happlies =>
          simp only [KeptCounts.appliesTo, Bool.and_eq_true, beq_iff_eq] at happlies
          exact (h kept rfl).prefix_counts happlies.1.2 term happlies.1.1.symm
      · exact List.nil_prefix

theorem countsFrom_keptPrefix {t : Transcript} {kept : Option KeptCounts}
    (h : ∀ counts ∈ kept, counts.IsRightOf t) (term : SearchTerm) :
    t.countsFrom term (t.keptPrefix term kept) = t.itemCounts term :=
  countsFrom_of_isPrefix (prefix_keptPrefix h term)

/-- The kept counts that counting goes on from; where none apply it begins anew. -/
def startCounts (t : Transcript) (kept : Option KeptCounts) (term : SearchTerm) : KeptCounts :=
  match kept with
  | some kept => if kept.appliesTo t term then kept else ⟨term.key, t.epoch, [], 0⟩
  | none => ⟨term.key, t.epoch, [], 0⟩

theorem startCounts_isRightOf {t : Transcript} {kept : Option KeptCounts}
    (h : ∀ counts ∈ kept, counts.IsRightOf t) (term : SearchTerm) :
    (t.startCounts kept term).IsRightOf t ∧ (t.startCounts kept term).key = term.key ∧
      (t.startCounts kept term).epoch = t.epoch := by
  have hanew : KeptCounts.IsRightOf ⟨term.key, t.epoch, [], 0⟩ t :=
    ⟨Nat.le_refl _, rfl, fun _ _ _ => List.nil_prefix⟩
  cases kept with
  | none => exact ⟨hanew, rfl, rfl⟩
  | some kept =>
      rw [startCounts]
      split
      · next happlies =>
          simp only [KeptCounts.appliesTo, Bool.and_eq_true, beq_iff_eq] at happlies
          exact ⟨h kept rfl, happlies.1.1, happlies.1.2⟩
      · exact ⟨hanew, rfl, rfl⟩

/-- Counts of the first items with those of all others behind them. -/
def completeCounts (t : Transcript) (term : SearchTerm) (start : KeptCounts) : KeptCounts :=
  let more := (t.items.drop start.counts.length).map (term.countIn ·.texts)
  { start with counts := start.counts ++ more, total := start.total + sumOf more }

theorem countAll_of_some {text : String} {term : SearchTerm}
    (hterm : SearchTerm.ofString? text = some term) (t : Transcript) (kept : Option KeptCounts) :
    t.countAll kept text =
      ((t.completeCounts term (t.startCounts kept term)).total,
        some (t.completeCounts term (t.startCounts kept term))) := by
  simp only [countAll, hterm]
  rfl

theorem completeCounts_startCounts {t : Transcript} {kept : Option KeptCounts}
    (h : ∀ counts ∈ kept, counts.IsRightOf t) (term : SearchTerm) :
    t.completeCounts term (t.startCounts kept term) =
      ⟨term.key, t.epoch, t.itemCounts term, sumOf (t.itemCounts term)⟩ := by
  obtain ⟨hright, hkey, hepoch⟩ := startCounts_isRightOf h term
  have hcounts := countsFrom_of_isPrefix (hright.prefix_counts hepoch term hkey.symm)
  rw [countsFrom] at hcounts
  simp only [completeCounts, hright.total_eq, hkey, hepoch, ← sumOf_append, hcounts]

theorem countAll_of_isRightOf {t : Transcript} {kept : Option KeptCounts}
    (h : ∀ counts ∈ kept, counts.IsRightOf t) (text : String) :
    (t.countAll kept text).1 = t.total text ∧
      ∀ counts ∈ (t.countAll kept text).2, counts.IsRightOf t := by
  cases hterm : SearchTerm.ofString? text with
  | none =>
      simp only [countAll, total, hterm]
      exact ⟨trivial, h⟩
  | some term =>
      rw [countAll_of_some hterm, completeCounts_startCounts h]
      refine ⟨by simp only [total, hterm], ?_⟩
      rintro counts ⟨⟩
      refine ⟨Nat.le_refl _, rfl, fun _ other hother => ?_⟩
      have hcounts : t.itemCounts other = t.itemCounts term := itemCounts_eq_of_key_eq hother t
      exact hcounts ▸ List.prefix_refl _

end Transcript

end TranscriptSearch
