import TranscriptSearch.Proofs.Transcript.KeptCounts

/-!
A resolver: a transcript that may change at any time, with counts kept from one question to the
next.  A run is any order of questions and changes.  Every answer of a run is the answer that a
new resolver, with nothing kept, gives about the transcript of that moment.
-/

namespace TranscriptSearch

/-- A transcript with kept counts. -/
structure Resolver where
  transcript : Transcript
  kept : Option KeptCounts

/-- A change of the transcript, a question, or the request to keep nothing. -/
inductive ResolverStep where
  | append (sources : List SourceEvent)
  | reset
  | invalidate
  | countAll (term : String)
  | locate (term : String) (number : Nat)
  | itemCount (term : String) (index : Nat)
  | nextItem (term : String) (after : UInt64)

/-- What a step is answered.  There is no answer where an index is computed that is too large for
a word. -/
inductive ResolverAnswer where
  | done
  | number (value : Nat)
  | location (value : Option Location)
  | item (value : Option Nat)
  | overflow
deriving DecidableEq

namespace Resolver

/-- A resolver with nothing kept. -/
def new (t : Transcript) : Resolver :=
  ⟨t, none⟩

/-- The answer to a step. -/
def answer (r : Resolver) : ResolverStep → ResolverAnswer
  | .append sources => .number ((r.transcript.append sources).size - r.transcript.size)
  | .reset => .done
  | .invalidate => .done
  | .countAll term => .number (r.transcript.countAll r.kept term).1
  | .locate term number => .location (r.transcript.locate? r.kept term number)
  | .itemCount term index => .number (r.transcript.itemCount r.kept term index)
  | .nextItem term after =>
    match r.transcript.nextItem? r.kept term after with
    | some value => .item value
    | none => .overflow

/-- The resolver after a step.  Only counting everything keeps counts. -/
def next (r : Resolver) : ResolverStep → Resolver
  | .append sources => { r with transcript := r.transcript.append sources }
  | .reset => { r with transcript := r.transcript.reset }
  | .invalidate => { r with kept := none }
  | .countAll term => { r with kept := (r.transcript.countAll r.kept term).2 }
  | _ => r

/-- The resolver after a run. -/
def run (r : Resolver) (steps : List ResolverStep) : Resolver :=
  steps.foldl next r

/-- The answers of a run. -/
def answers (r : Resolver) : List ResolverStep → List ResolverAnswer
  | [] => []
  | step :: steps => r.answer step :: (r.next step).answers steps

/-- The answers of a run in which nothing is ever kept. -/
def freshAnswers (t : Transcript) : List ResolverStep → List ResolverAnswer
  | [] => []
  | step :: steps => (new t).answer step :: freshAnswers ((new t).next step).transcript steps

/-- What is kept is right about the transcript. -/
def IsRight (r : Resolver) : Prop :=
  ∀ counts ∈ r.kept, counts.IsRightOf r.transcript

theorem isRight_new (t : Transcript) : (new t).IsRight := by
  simp [IsRight, new]

theorem IsRight.next {r : Resolver} (h : r.IsRight) (step : ResolverStep) :
    (r.next step).IsRight := by
  cases step with
  | append sources =>
      intro counts hcounts
      exact (h counts hcounts).later (r.transcript.extends_append sources)
  | reset =>
      intro counts hcounts
      exact (h counts hcounts).later r.transcript.extends_reset
  | invalidate => exact isRight_new r.transcript
  | countAll term => exact (Transcript.countAll_of_isRightOf h term).2
  | locate => exact h
  | itemCount => exact h
  | nextItem => exact h

theorem IsRight.run {r : Resolver} (h : r.IsRight) (steps : List ResolverStep) :
    (r.run steps).IsRight := by
  induction steps generalizing r with
  | nil => exact h
  | cons step steps ih => exact ih (h.next step)

theorem IsRight.answer_eq {r : Resolver} (h : r.IsRight) (step : ResolverStep) :
    r.answer step = (new r.transcript).answer step := by
  have hnew := isRight_new r.transcript
  have hcounts : ∀ term : SearchTerm,
      r.transcript.countsFrom term (r.transcript.keptPrefix term r.kept) =
        r.transcript.countsFrom term (r.transcript.keptPrefix term none) := by
    intro term
    exact (Transcript.countsFrom_keptPrefix h term).trans
      (Transcript.countsFrom_keptPrefix hnew term).symm
  cases step with
  | append => rfl
  | reset => rfl
  | invalidate => rfl
  | countAll term =>
      have hkept := (Transcript.countAll_of_isRightOf h term).1
      have hnone := (Transcript.countAll_of_isRightOf hnew term).1
      exact congrArg ResolverAnswer.number (hkept.trans hnone.symm)
  | locate term number => simp only [answer, new, Transcript.locate?, hcounts]
  | itemCount term index => simp only [answer, new, Transcript.itemCount, hcounts]
  | nextItem term after =>
      have hfrom : r.transcript.itemFrom? r.kept term = r.transcript.itemFrom? none term := by
        funext start
        simp only [Transcript.itemFrom?, hcounts]
      simp only [answer, new, Transcript.nextItem?, hfrom]

theorem transcript_next (r : Resolver) (step : ResolverStep) :
    (r.next step).transcript = ((new r.transcript).next step).transcript := by
  cases step <;> rfl

theorem IsRight.answers_eq {r : Resolver} (h : r.IsRight) (steps : List ResolverStep) :
    r.answers steps = freshAnswers r.transcript steps := by
  induction steps generalizing r with
  | nil => rfl
  | cons step steps ih =>
      rw [answers, freshAnswers, h.answer_eq, ih (h.next step), transcript_next]

/-- Every answer of every run is the answer of a new resolver about the transcript of that moment.
In particular the number of all occurrences is always the sum over all items. -/
theorem answers_eq_freshAnswers (t : Transcript) (steps : List ResolverStep) :
    (new t).answers steps = freshAnswers t steps ∧
      ∀ term : String, ((new t).run steps).answer (.countAll term) =
        .number (match SearchTerm.ofString? term with
          | none => 0
          | some term =>
            sumOf (((new t).run steps).transcript.items.map fun item =>
              term.countIn item.texts)) := by
  have hright := isRight_new t
  constructor
  · exact hright.answers_eq steps
  · intro term
    have htotal := (Transcript.countAll_of_isRightOf (hright.run steps) term).1
    exact congrArg ResolverAnswer.number htotal

end Resolver

end TranscriptSearch
