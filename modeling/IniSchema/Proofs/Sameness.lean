import IniSchema.Proofs.Number.Rational
import IniSchema.Proofs.Schema

/-!
# Schemas with the same declarations

Two schemas are the same if they declare the same, in any order.  A compiled schema is the same as
itself, as its defaults are finite numbers, and the same as any with its environments in another
order.
-/

namespace IniSchema

/-! ## Maps -/

theorem OrderedMap.sameAs_of_get? {α : Type} {same : α → α → Bool} {m n : OrderedMap α}
    (hsize : m.size = n.size)
    (hentries : ∀ e ∈ m.entries, n.get? e.1 = some e.2 ∧ same e.2 e.2 = true) :
    m.sameAs same n = true := by
  rw [sameAs, hsize, beq_self_eq_true, Bool.true_and, List.all_eq_true]
  intro e he
  obtain ⟨hfound, hsame⟩ := hentries e he
  rw [hfound]
  exact hsame

theorem OrderedMap.sameAs_self {α : Type} {same : α → α → Bool} {m : OrderedMap α}
    (h : ∀ a ∈ m.values, same a a = true) : m.sameAs same m = true := by
  apply sameAs_of_get? rfl
  intro e he
  exact ⟨get?_eq_some_iff.mpr he, h e.2 (mem_values.mpr ⟨e.1, he⟩)⟩

/-! ## Declarations -/

theorem Value.sameAs_self {value : Value} {type : ValueType} (h : value.hasType type) :
    value.sameAs value = true := by
  cases value with
  | float x =>
      have hfinite := isFinite_of_hasType h
      exact (Binary64.beq_iff hfinite hfinite).mpr rfl
  | string s => exact beq_self_eq_true s
  | integer i => exact beq_self_eq_true i
  | boolean b => exact beq_self_eq_true b
  | null => rfl

theorem Variable.Sound.sameAs_self {v : Variable} (h : v.Sound) : v.sameAs v = true := by
  unfold Variable.sameAs
  cases hdefault : v.default with
  | none => simp
  | some value => simp [Value.sameAs_self (h.default_hasType value hdefault)]

theorem Section.Sound.sameAs_self {s : Section} (h : s.Sound) : s.sameAs s = true := by
  rw [Section.sameAs, beq_self_eq_true, Bool.true_and]
  exact OrderedMap.sameAs_self fun v hv => (h.declared v hv).sameAs_self

theorem Environment.Sound.sameAs_self {e : Environment} (h : e.Sound) : e.sameAs e = true := by
  rw [Environment.sameAs, beq_self_eq_true, Bool.true_and]
  exact OrderedMap.sameAs_self fun s hs => (h.sections s hs).sameAs_self

theorem Schema.Sound.sameAs_of_perm {s t : Schema} (hs : s.Sound) (ht : t.Sound)
    (hname : s.appName = t.appName)
    (hperm : s.environments.values.Perm t.environments.values) : s.sameAs t = true := by
  have hsize : s.environments.size = t.environments.size := by
    simpa [OrderedMap.values, OrderedMap.size] using hperm.length_eq
  rw [Schema.sameAs, hname, beq_self_eq_true, Bool.true_and]
  apply OrderedMap.sameAs_of_get? hsize
  intro e he
  have hmem : e.2 ∈ s.environments.values := OrderedMap.mem_values.mpr ⟨e.1, he⟩
  refine ⟨?_, (hs.environments e.2 hmem).sameAs_self⟩
  rw [hs.keyed e he]
  exact ht.keyed.get?_name (hperm.subset hmem)

end IniSchema
