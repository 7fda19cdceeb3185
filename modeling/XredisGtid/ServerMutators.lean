import XredisGtid.ServerNextGno

/-!
# What the mutators of the server's sets do

There is one function for adding to and one for removing from each of the two sets.  Those
for the executed set work on the lost set, both by merging into it.  `meant` is what the
names say, `done` what the functions do.
-/
namespace XredisGtid

inductive SetMutator where
  | addExecuted
  | removeExecuted
  | addLost
  | removeLost
deriving DecidableEq, Repr

def SetMutator.call (s : ServerSets) (delta : GtidSet) (rand : Rand) :
    SetMutator → Option ServerSets
  | .addExecuted => serverGtidSetAddExecuted s delta rand
  | .removeExecuted => serverGtidSetRemoveExecuted s delta rand
  | .addLost => serverGtidSetAddLost s delta rand
  | .removeLost => serverGtidSetRemoveLost s delta rand

section Sets
variable (E L D : Finset (Uuid × Int)) (saved : Int) (uuid : Uuid)

/-- The executed and the lost set afterwards, going by the name. -/
def SetMutator.meant : SetMutator → Finset (Uuid × Int) × Finset (Uuid × Int)
  | .addExecuted => (E ∪ D, L)
  | .removeExecuted => (E \ D, L)
  | .addLost => (E, L ∪ D)
  | .removeLost => (E, L \ D)

def SetMutator.done : SetMutator → Finset (Uuid × Int) × Finset (Uuid × Int)
  | .addExecuted => (E, L ∪ D)
  | .removeExecuted => (E, L ∪ D)
  | .addLost => (E, L ∪ D)
  | .removeLost => (E, L \ D)

/-- Two of them go on to save the next gno, with its assertion. -/
def SetMutator.Asserts : SetMutator → Prop
  | .removeExecuted | .addLost => UpdateAsserts E (L ∪ D) saved uuid
  | .addExecuted | .removeLost => True

/-- When the name is right. -/
def SetMutator.RightFor : SetMutator → Prop
  | .addExecuted => D ⊆ E ∧ D ⊆ L
  | .removeExecuted => Disjoint E D ∧ D ⊆ L ∧ UpdateAsserts E (L ∪ D) saved uuid
  | .addLost => UpdateAsserts E (L ∪ D) saved uuid
  | .removeLost => True

end Sets

/-- The mutator returns, with the sets that its name says. -/
def SetMutator.Right (m : SetMutator) (s : ServerSets) (delta : GtidSet) (rand : Rand) : Prop :=
  ∃ s', m.call s delta rand = some s' ∧
    (contents s'.gtidExecuted, contents s'.gtidLost) =
      m.meant (contents s.gtidExecuted) (contents s.gtidLost) (contents delta)

section Mutators
variable {s s' : ServerSets} {t : GtidSet} {uuid : Uuid} {E L D : Finset (Uuid × Int)}
  {m : SetMutator} {saved : Int}

/-- **The effect of a mutator.** -/
theorem SetMutator.call_spec (h : Holding s uuid E L) (ht : RegularSet t)
    (hassert : m.Asserts E L (contents t) s.gtidExecuted.curnext uuid) (rand : Rand) :
    ∃ s', m.call s t rand = some s' ∧
      Holding s' uuid (m.done E L (contents t)).1 (m.done E L (contents t)).2 := by
  cases m with
  | addExecuted =>
    obtain ⟨l, n, hmerge, hold⟩ := addLost_holding h ht rand
    refine ⟨_, ?_, hold⟩
    simp only [call, serverGtidSetAddExecuted, hmerge, Option.bind_eq_bind, Option.bind_some]
  | removeExecuted =>
    obtain ⟨l, n, hmerge, hold⟩ := addLost_holding h ht (rand.sub 0)
    obtain ⟨s', hrun, hold', -⟩ := updateNextGno_spec hold hassert (rand.sub 1)
    refine ⟨s', ?_, hold'⟩
    simp only [call, serverGtidSetRemoveExecuted, hmerge, hrun, Option.bind_eq_bind,
      Option.bind_some]
  | addLost =>
    obtain ⟨l, n, hmerge, hold⟩ := addLost_holding h ht (rand.sub 0)
    obtain ⟨s', hrun, hold', -⟩ := updateNextGno_spec hold hassert (rand.sub 1)
    refine ⟨s', ?_, hold'⟩
    simp only [call, serverGtidSetAddLost, hmerge, hrun, Option.bind_eq_bind, Option.bind_some]
  | removeLost =>
    obtain ⟨s', hrun, hold, -⟩ := removeLost_holding h ht rand
    exact ⟨s', hrun, hold⟩

/-- A mutator that saves the next gno aborts where the assertion fails. -/
theorem SetMutator.call_none (h : Holding s uuid E L) (ht : RegularSet t)
    (hassert : ¬ m.Asserts E L (contents t) s.gtidExecuted.curnext uuid) (rand : Rand) :
    m.call s t rand = none := by
  obtain ⟨l, n, hmerge, hold⟩ := addLost_holding h ht (rand.sub 0)
  cases m with
  | addExecuted => exact absurd trivial hassert
  | removeExecuted =>
    have hfails := updateNextGno_none hold hassert (rand.sub 1)
    simp only [call, serverGtidSetRemoveExecuted, hmerge, hfails, Option.bind_eq_bind,
      Option.bind_some]
  | addLost =>
    have hfails := updateNextGno_none hold hassert (rand.sub 1)
    simp only [call, serverGtidSetAddLost, hmerge, hfails, Option.bind_eq_bind, Option.bind_some]
  | removeLost => exact absurd trivial hassert

/-- On sets: what is done is what is meant. -/
theorem SetMutator.rightFor_iff :
    m.RightFor E L D saved uuid ↔ m.Asserts E L D saved uuid ∧ m.done E L D = m.meant E L D := by
  cases m with
  | addExecuted =>
    rw [RightFor, Asserts, done, meant, Prod.mk.injEq, true_and, eq_comm (a := E),
      Finset.union_eq_left, Finset.union_eq_left]
  | removeExecuted =>
    rw [RightFor, Asserts, done, meant, Prod.mk.injEq, eq_comm (a := E), sdiff_eq_left,
      Finset.union_eq_left]
    tauto
  | addLost => exact (and_iff_left rfl).symm
  | removeLost => exact (and_iff_left rfl).symm

/-- **A mutator does what its name says** exactly in these cases. -/
theorem setMutator_right_iff (h : SetsInvariant s) (ht : RegularSet t) (rand : Rand) :
    m.Right s t rand ↔ m.RightFor (contents s.gtidExecuted) (contents s.gtidLost) (contents t)
      s.gtidExecuted.curnext s.uuid := by
  have hold := Holding.self h
  rw [SetMutator.rightFor_iff]
  by_cases hassert : m.Asserts (contents s.gtidExecuted) (contents s.gtidLost) (contents t)
      s.gtidExecuted.curnext s.uuid
  · obtain ⟨s', hrun, hold'⟩ := SetMutator.call_spec hold ht hassert rand
    rw [SetMutator.Right, hrun, and_iff_right hassert]
    constructor
    · rintro ⟨s₁, hs₁, heq⟩
      obtain rfl := Option.some.inj hs₁
      rw [← heq, hold'.executed_eq, hold'.lost_eq]
    · intro heq
      refine ⟨s', rfl, ?_⟩
      rw [← heq, hold'.executed_eq, hold'.lost_eq]
  · refine iff_of_false ?_ (fun hright => hassert hright.1)
    rintro ⟨s', hrun, -⟩
    rw [SetMutator.call_none hold ht hassert rand] at hrun
    cases hrun

theorem setMutator_right_addLost :
    ∃ s t, SetMutator.Right .addLost s t (fun _ => 0) ∧ contents t = {([65], (1 : Int))} := by
  obtain ⟨s, -, hold, hcur⟩ := exists_serverStart [65]
  obtain ⟨t, ht, htset⟩ := exists_singleton_set [65] (le_refl 1) (by decide)
  refine ⟨s, t, (setMutator_right_iff (m := .addLost) hold.toSetsInvariant ht _).mpr ?_, htset⟩
  exact updateAsserts_of_le (fun hs => absurd hcur hs)

/-- Adding one executed gtid to a server that has nothing leaves the executed set empty. -/
theorem setMutator_right_counterexample :
    ∃ s t, SetsInvariant s ∧ RegularSet t ∧ contents s.gtidExecuted = ∅ ∧
      contents s.gtidLost = ∅ ∧ contents t = {([65], (1 : Int))} ∧
      ∃ s', serverGtidSetAddExecuted s t (fun _ => 0) = some s' ∧
        contents s'.gtidExecuted = ∅ ∧ contents s'.gtidLost = {([65], (1 : Int))} := by
  obtain ⟨s, -, hold, -⟩ := exists_serverStart [65]
  obtain ⟨t, ht, htset⟩ := exists_singleton_set [65] (le_refl 1) (by decide)
  obtain ⟨s', hrun, hold'⟩ := SetMutator.call_spec (m := .addExecuted) hold ht trivial (fun _ => 0)
  refine ⟨s, t, hold.toSetsInvariant, ht, hold.executed_eq, hold.lost_eq, htset, s', hrun,
    hold'.executed_eq, ?_⟩
  rw [hold'.lost_eq, htset]
  rfl

end Mutators

end XredisGtid
