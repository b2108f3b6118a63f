import IniSchema.Proofs.OrderedMap
import Mathlib.Data.List.Induction
import Mathlib.Data.List.TakeWhile

/-!
# Blocks of a list

Headers divide a list of lines into blocks: a header and the lines after it up to the next header.
What stands before the first header belongs to no block.  A line that is added at the end opens a
block of its own or goes to the last block.
-/

namespace IniSchema

variable {α β : Type}

/-! ## Items and what stands before them -/

section Split

variable {γ : Type} {items : List α} {last : α}

theorem split_concat {before after : List α} {x : α} (h : items ++ [last] = before ++ x :: after) :
    (before = items ∧ x = last) ∨ ∃ rest, items = before ++ x :: rest := by
  rcases List.eq_nil_or_concat after with rfl | ⟨rest, y, rfl⟩
  · obtain ⟨hitems, hlast⟩ := List.append_inj' h rfl
    simp at hlast
    exact .inl ⟨hitems.symm, hlast.symm⟩
  · right
    refine ⟨rest, ?_⟩
    have hsplit : items ++ [last] = (before ++ x :: rest) ++ [y] := by simpa using h
    exact (List.append_inj' hsplit rfl).1

theorem forall_split_concat (kind : γ → α) {P : List α → γ → Prop} :
    (∀ before c after, items ++ [last] = before ++ kind c :: after → P before c) ↔
      (∀ before c after, items = before ++ kind c :: after → P before c) ∧
        ∀ c, last = kind c → P items c := by
  constructor
  · intro h
    constructor
    · intro before c after hitems
      exact h before c (after ++ [last]) (by simp [hitems])
    · rintro c rfl
      exact h items c [] rfl
  · rintro ⟨hitems, hlast⟩ before c after hsplit
    rcases split_concat hsplit with ⟨rfl, hkind⟩ | ⟨rest, hrest⟩
    · exact hlast c hkind.symm
    · exact hitems before c rest hrest

end Split

/-! ## Blocks -/

def blocks (head? : α → Option β) : List α → List (β × List α)
  | [] => []
  | line :: rest =>
      match head? line with
      | some head => (head, rest.takeWhile fun x => (head? x).isNone) :: blocks head? rest
      | none => blocks head? rest

variable {head? : α → Option β}

theorem map_fst_blocks (lines : List α) :
    (blocks head? lines).map Prod.fst = lines.filterMap head? := by
  induction lines with
  | nil => rfl
  | cons line rest ih => cases h : head? line <;> simp [blocks, h, ih]

theorem mem_of_mem_block {lines : List α} {block : β × List α}
    (hblock : block ∈ blocks head? lines) {x : α} (hx : x ∈ block.2) : x ∈ lines := by
  induction lines with
  | nil => cases hblock
  | cons line rest ih =>
      cases hline : head? line with
      | none =>
          simp only [blocks, hline] at hblock
          exact List.mem_cons_of_mem _ (ih hblock)
      | some head =>
          simp only [blocks, hline] at hblock
          rcases List.mem_cons.mp hblock with rfl | hrest
          · exact List.mem_cons_of_mem _ ((List.takeWhile_sublist _).subset hx)
          · exact List.mem_cons_of_mem _ (ih hrest)

theorem exists_head_of_mem_blocks {lines : List α} {block : β × List α}
    (hblock : block ∈ blocks head? lines) : ∃ line ∈ lines, head? line = some block.1 := by
  rw [← List.mem_filterMap, ← map_fst_blocks]
  exact List.mem_map_of_mem hblock

private theorem forall_none_concat {lines : List α} {last : α} (h : ∀ x ∈ lines, head? x = none)
    (hlast : head? last = none) : ∀ x ∈ lines ++ [last], head? x = none := by
  intro x hx
  rcases List.mem_append.mp hx with hx | hx
  · exact h x hx
  · rwa [List.mem_singleton.mp hx]

theorem blocks_of_forall_none {lines : List α} (h : ∀ x ∈ lines, head? x = none) :
    blocks head? lines = [] := by
  induction lines with
  | nil => rfl
  | cons line rest ih =>
      simp [blocks, h line (by simp), ih fun x hx => h x (by simp [hx])]

theorem blocks_append_of_forall_none {front : List α} (h : ∀ x ∈ front, head? x = none)
    (rest : List α) : blocks head? (front ++ rest) = blocks head? rest := by
  induction front with
  | nil => rfl
  | cons line front ih => simp [blocks, h line (by simp), ih fun x hx => h x (by simp [hx])]

/-- A header ends the block before it, whatever comes after. -/
theorem blocks_append_head {line : α} {head : β} (before rest : List α)
    (hline : head? line = some head) :
    blocks head? (before ++ line :: rest) = blocks head? before ++ blocks head? (line :: rest) := by
  induction before with
  | nil => rfl
  | cons first before ih =>
      have htake : (before ++ line :: rest).takeWhile (fun x => (head? x).isNone) =
          before.takeWhile fun x => (head? x).isNone := by
        rw [List.takeWhile_append]
        split
        · rename_i hall
          simp [hline, (List.takeWhile_prefix _).eq_of_length hall]
        · rfl
      cases hfirst : head? first with
      | none => simpa [blocks, hfirst] using ih
      | some head => simpa [blocks, hfirst, htake] using ih

theorem blocks_append_cons {line : α} {head : β} {body : List α} (before : List α)
    (hline : head? line = some head) (hbody : ∀ x ∈ body, head? x = none) :
    blocks head? (before ++ line :: body) = blocks head? before ++ [(head, body)] := by
  have htake : body.takeWhile (fun x => (head? x).isNone) = body :=
    List.takeWhile_eq_self_iff.mpr fun x hx => by simp [hbody x hx]
  rw [blocks_append_head before body hline]
  simp [blocks, hline, htake, blocks_of_forall_none hbody]

theorem forall_none_or_exists_last (head? : α → Option β) (lines : List α) :
    (∀ x ∈ lines, head? x = none) ∨
      ∃ before line head body, lines = before ++ line :: body ∧ head? line = some head ∧
        ∀ x ∈ body, head? x = none := by
  induction lines using List.reverseRecOn with
  | nil => simp
  | append_singleton lines last ih =>
      cases hlast : head? last with
      | some head => exact .inr ⟨lines, last, head, [], rfl, hlast, by simp⟩
      | none =>
          rcases ih with hnone | ⟨before, line, head, body, rfl, hline, hbody⟩
          · left
            exact forall_none_concat hnone hlast
          · right
            exact ⟨before, line, head, body ++ [last], by simp, hline,
              forall_none_concat hbody hlast⟩

theorem exists_of_getLast?_blocks {lines : List α} {block : β × List α}
    (h : (blocks head? lines).getLast? = some block) :
    ∃ before line, lines = before ++ line :: block.2 ∧ head? line = some block.1 ∧
      ∀ x ∈ block.2, head? x = none := by
  rcases forall_none_or_exists_last head? lines with
    hnone | ⟨before, line, head, body, rfl, hline, hbody⟩
  · simp [blocks_of_forall_none hnone] at h
  · rw [blocks_append_cons before hline hbody, List.getLast?_concat, Option.some.injEq] at h
    subst h
    exact ⟨before, line, rfl, hline, hbody⟩

/-- A line may be left out that a view of the block does not see, after the body before it. -/
theorem map_blocks_without {γ : Type} {view : β × List α → γ} {before after : List α} {x : α}
    (hx : head? x = none)
    (hview : ∀ front line head body, before = front ++ line :: body → head? line = some head →
      (∀ y ∈ body, head? y = none) →
        ∀ rest, view (head, body ++ x :: rest) = view (head, body ++ rest)) :
    (blocks head? (before ++ x :: after)).map view = (blocks head? (before ++ after)).map view := by
  have hskip : blocks head? (x :: after) = blocks head? after := by simp [blocks, hx]
  rcases forall_none_or_exists_last head? before with
    hnone | ⟨front, line, head, body, rfl, hline, hbody⟩
  · rw [blocks_append_of_forall_none hnone, blocks_append_of_forall_none hnone, hskip]
  · have hisNone : ∀ y ∈ body, (head? y).isNone = true := by
      intro y hy
      simp [hbody y hy]
    have hsame := hview front line head body rfl hline hbody
      (after.takeWhile fun y => (head? y).isNone)
    have hrest : blocks head? (body ++ x :: after) = blocks head? (body ++ after) := by
      rw [blocks_append_of_forall_none hbody, blocks_append_of_forall_none hbody, hskip]
    rw [List.append_assoc, List.append_assoc, List.cons_append, List.cons_append,
      blocks_append_head front _ hline, blocks_append_head front _ hline, List.map_append,
      List.map_append]
    congr 1
    simp only [blocks, hline, hrest, List.map_cons, List.takeWhile_append_of_pos hisNone,
      List.takeWhile_cons, hx, Option.isNone_none, if_true, hsame]

/-! ## One more line -/

theorem blocks_concat_head {line : α} {head : β} (lines : List α) (h : head? line = some head) :
    blocks head? (lines ++ [line]) = blocks head? lines ++ [(head, [])] :=
  blocks_append_cons lines h (by simp)

theorem blocks_concat_body {line : α} (lines : List α) (h : head? line = none) :
    blocks head? (lines ++ [line]) = (blocks head? lines).dropLast ++
      ((blocks head? lines).getLast?.map fun block => (block.1, block.2 ++ [line])).toList := by
  rcases forall_none_or_exists_last head? lines with
    hnone | ⟨before, first, head, body, rfl, hfirst, hbody⟩
  · have hall := forall_none_concat hnone h
    simp [blocks_of_forall_none hnone, blocks_of_forall_none hall]
  · have hall := forall_none_concat hbody h
    rw [blocks_append_cons before hfirst hbody, List.append_assoc, List.cons_append,
      blocks_append_cons before hfirst hall]
    simp

theorem blocks_concat_of_none {line : α} {lines : List α}
    (hlast : (blocks head? lines).getLast? = none) (h : head? line = none) :
    blocks head? (lines ++ [line]) = [] := by
  simp [blocks_concat_body lines h, List.getLast?_eq_none_iff.mp hlast]

theorem getLast?_blocks_concat_head {line : α} {head : β} (lines : List α)
    (h : head? line = some head) :
    (blocks head? (lines ++ [line])).getLast? = some (head, []) := by
  simp [blocks_concat_head lines h]

theorem getLast?_blocks_concat_body {line : α} (lines : List α) (h : head? line = none) :
    (blocks head? (lines ++ [line])).getLast? =
      (blocks head? lines).getLast?.map fun block => (block.1, block.2 ++ [line]) := by
  rw [blocks_concat_body lines h]
  cases hlast : (blocks head? lines).getLast? with
  | none => simp [List.getLast?_eq_none_iff.mp hlast]
  | some block => simp

/-- A property of all blocks, where a further line only matters to the last one. -/
theorem forall_blocks_concat {line : α} {lines : List α} {P Q : List α → Prop}
    (h : head? line = none) (hP : ∀ body, P (body ++ [line]) ↔ P body ∧ Q body) :
    (∀ block ∈ blocks head? (lines ++ [line]), P block.2) ↔
      (∀ block ∈ blocks head? lines, P block.2) ∧
        ∀ block, (blocks head? lines).getLast? = some block → Q block.2 := by
  rw [blocks_concat_body lines h]
  cases hlast : (blocks head? lines).getLast? with
  | none => simp [List.getLast?_eq_none_iff.mp hlast]
  | some block =>
      rw [← List.dropLast_append_getLast? block hlast]
      simp [or_imp, forall_and, hP, and_assoc]

theorem exists_blocks_concat_body {line : α} {lines : List α} {block : β × List α}
    (hlast : (blocks head? lines).getLast? = some block) (h : head? line = none) :
    ∃ front, blocks head? lines = front ++ [block] ∧
      blocks head? (lines ++ [line]) = front ++ [(block.1, block.2 ++ [line])] := by
  refine ⟨(blocks head? lines).dropLast, (List.dropLast_append_getLast? block hlast).symm, ?_⟩
  rw [blocks_concat_body lines h, hlast]
  rfl

/-! ## Blocks in the last block -/

section Inner

variable {γ : Type} {inner? : α → Option γ} {line : α}

def innerBlock? (head? : α → Option β) (inner? : α → Option γ) (lines : List α) :
    Option (γ × List α) :=
  (blocks head? lines).getLast?.bind fun block => (blocks inner? block.2).getLast?

theorem exists_of_innerBlock? {lines : List α} {block : γ × List α}
    (h : innerBlock? head? inner? lines = some block) :
    ∃ before line, lines = before ++ line :: block.2 ∧ inner? line = some block.1 ∧
      ∀ x ∈ block.2, head? x = none ∧ inner? x = none := by
  obtain ⟨outer, houter, hinner⟩ := Option.bind_eq_some_iff.mp h
  obtain ⟨before, header, rfl, -, hheads⟩ := exists_of_getLast?_blocks houter
  obtain ⟨middle, line, hsplit, hline, hlines⟩ := exists_of_getLast?_blocks hinner
  refine ⟨before ++ header :: middle, line, by simp [hsplit], hline, ?_⟩
  intro x hx
  exact ⟨hheads x (by simp [hsplit, hx]), hlines x hx⟩

theorem innerBlock?_concat_outer {head : β} (lines : List α) (h : head? line = some head) :
    innerBlock? head? inner? (lines ++ [line]) = none := by
  rw [innerBlock?, getLast?_blocks_concat_head lines h]
  rfl

theorem innerBlock?_concat_inner {inner : γ} (lines : List α) (h : head? line = none)
    (hinner : inner? line = some inner) :
    innerBlock? head? inner? (lines ++ [line]) =
      (blocks head? lines).getLast?.map fun _ => (inner, []) := by
  rw [innerBlock?, getLast?_blocks_concat_body lines h]
  cases (blocks head? lines).getLast? with
  | none => rfl
  | some block => exact getLast?_blocks_concat_head block.2 hinner

theorem innerBlock?_concat_body (lines : List α) (h : head? line = none)
    (hinner : inner? line = none) :
    innerBlock? head? inner? (lines ++ [line]) =
      (innerBlock? head? inner? lines).map fun block => (block.1, block.2 ++ [line]) := by
  rw [innerBlock?, innerBlock?, getLast?_blocks_concat_body lines h]
  cases (blocks head? lines).getLast? with
  | none => rfl
  | some block => exact getLast?_blocks_concat_body block.2 hinner

end Inner

/-! ## Catalogues of blocks -/

section Lists

open OrderedMap

variable {γ : Type} {R : γ → β × List α → Prop} (name : β → Text) {m : OrderedMap γ}
  {lines : List α} {line : α}

theorem lists_insert (head : β) {c : γ} (h : m.Lists R (fun b => name b.1) (blocks head? lines))
    (hline : head? line = some head) (hnew : Name.key (name head) ∉ m.keys) (hR : R c (head, [])) :
    (m.insert (Name.key (name head)) c).Lists R (fun b => name b.1)
      (blocks head? (lines ++ [line])) := by
  rw [blocks_concat_head lines hline]
  exact h.insert (head, []) hnew hR

theorem lists_modify {block : β × List α} {f : γ → γ}
    (h : m.Lists R (fun b => name b.1) (blocks head? lines)) (hline : head? line = none)
    (hlast : (blocks head? lines).getLast? = some block)
    (hR : ∀ c, R c block → R (f c) (block.1, block.2 ++ [line])) :
    (m.modify (Name.key (name block.1)) f).Lists R (fun b => name b.1)
      (blocks head? (lines ++ [line])) := by
  rw [blocks_concat_body lines hline, hlast]
  rw [← List.dropLast_append_getLast? block hlast] at h
  exact h.modify (block.1, block.2 ++ [line]) rfl hR

theorem lists_same (h : m.Lists R (fun b => name b.1) (blocks head? lines))
    (hline : head? line = none)
    (hR : ∀ block, (blocks head? lines).getLast? = some block →
      ∀ c, R c block → R c (block.1, block.2 ++ [line])) :
    m.Lists R (fun b => name b.1) (blocks head? (lines ++ [line])) := by
  rw [blocks_concat_body lines hline]
  cases hlast : (blocks head? lines).getLast? with
  | none =>
      rw [List.getLast?_eq_none_iff.mp hlast] at h
      simpa [List.getLast?_eq_none_iff.mp hlast] using h
  | some block =>
      rw [← List.dropLast_append_getLast? block hlast] at h
      exact h.replace_last (block.1, block.2 ++ [line]) rfl (hR block hlast)

end Lists

end IniSchema
