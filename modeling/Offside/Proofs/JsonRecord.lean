import Offside.Document
import Offside.Proofs.JsonReading
import Offside.Proofs.RowReading
import Mathlib.Logic.Relation
import Mathlib.Tactic.IntervalCases

/-!
# Records that come back from JSON

The reader of records cannot tell two documents apart that differ in the order of the members of
their objects, since it looks members up by their names. A record that is written is an object of
its fields, and these are found under their names; an integer of 64 bits is read as it was written.
-/

namespace Offside

set_option autoImplicit false

namespace Text

theorem head?_toDigits {n : Nat} (h : 0 < n) : (Nat.toDigits 10 n).head? ≠ some '0' := by
  induction n using Nat.strongRecOn with
  | ind n ih =>
    by_cases hn : n < 10
    · rw [Nat.toDigits_of_lt_base hn]
      interval_cases n <;> decide
    · have hmore : (Nat.toDigits 10 (n / 10)).head? ≠ some '0' := ih (n / 10) (by omega) (by omega)
      rw [Nat.toDigits_of_base_le (by decide) (Nat.le_of_not_lt hn),
        List.head?_append_of_ne_nil _ Nat.toDigits_ne_nil]
      exact hmore

theorem toList_natCast (n : Nat) : (toString (n : Int)).toList = Nat.toDigits 10 n := by
  rw [Int.toString_eq_repr]
  exact Nat.toList_repr

theorem toList_negSucc (n : Nat) :
    (toString (Int.negSucc n)).toList = '-' :: Nat.toDigits 10 (n + 1) := by
  rw [Int.toString_eq_repr]
  change ("-" ++ (n + 1).repr).toList = _
  rw [String.toList_append, Nat.toList_repr]
  rfl

theorem toList_int_cases (n : Int) :
    ∃ sign, (sign = [] ∧ 0 ≤ n ∨ sign = ['-'] ∧ n < 0) ∧
      (toString n).toList = sign ++ Nat.toDigits 10 n.natAbs := by
  cases n with
  | ofNat n => exact ⟨[], .inl ⟨rfl, Int.natCast_nonneg n⟩, toList_natCast n⟩
  | negSucc n => exact ⟨['-'], .inr ⟨rfl, Int.negSucc_lt_zero n⟩, toList_negSucc n⟩

end Text

namespace Json

open Text

/-! ## Integers -/

theorem isDigit_of_mem {n : Nat} {c : Char} (h : c ∈ Nat.toDigits 10 n) : c.isDigit = true :=
  Nat.isDigit_of_mem_toDigits (by decide) (by decide) h

theorem dropInteger?_toDigits (n : Nat) : dropInteger? (Nat.toDigits 10 n) = some [] := by
  have hdigit : ∀ c ∈ Nat.toDigits 10 n, c.isDigit = true := fun c => isDigit_of_mem
  rcases Nat.eq_zero_or_pos n with rfl | hpos
  · rfl
  · have hhead := head?_toDigits hpos
    cases hdigits : Nat.toDigits 10 n with
    | nil => exact absurd hdigits Nat.toDigits_ne_nil
    | cons c cs =>
      rw [hdigits] at hhead hdigit
      rw [dropInteger?]
      · rw [if_pos (hdigit c List.mem_cons_self), List.dropWhile_eq_nil_iff.mpr]
        exact fun d hd => hdigit d (List.mem_cons_of_mem c hd)
      · rintro rfl
        exact hhead rfl

theorem isNumber_of_unsigned {cs : List Char} (h : dropInteger? cs = some [])
    (hsign : '-' ∉ cs) : isNumber cs = true := by
  unfold isNumber
  split
  · exact absurd List.mem_cons_self hsign
  · simp [h, dropFraction?, dropExponent?]

theorem numeral_int (n : Int) : Numeral (toString n).toList := by
  have hnumber := dropInteger?_toDigits n.natAbs
  have hnumeric : ∀ c ∈ Nat.toDigits 10 n.natAbs, isNumeric c = true := by
    intro c hc
    simp [isNumeric, isDigit_of_mem hc]
  obtain ⟨sign, hsign, htext⟩ := toList_int_cases n
  rw [htext]
  rcases hsign with ⟨rfl, -⟩ | ⟨rfl, -⟩
  · refine ⟨isNumber_of_unsigned hnumber ?_, hnumeric⟩
    intro hminus
    exact (digit_of_mem hminus).2.2.1 rfl
  · refine ⟨by simp [isNumber, hnumber, dropFraction?, dropExponent?], ?_⟩
    rintro c (_ | ⟨_, hc⟩)
    · rfl
    · exact hnumeric c hc

theorem integer?_neg {n : Nat} (h : int64Min ≤ -n) :
    integer? int64Min int64Max ('-' :: Nat.toDigits 10 n) = some (-n : Int) := by
  have hlimit : n ≤ max int64Min.natAbs int64Max.natAbs := by
    simp only [int64Min, int64Max] at h ⊢
    omega
  have hhigh : (-n : Int) ≤ int64Max := by
    simp only [int64Max]
    omega
  simp [integer?, digitsUpTo?_toDigits hlimit, h, hhigh]

/-- No integer is written as a zero with a sign, which the reader takes for a fraction. -/
theorem toString_ne_minus_zero (n : Int) : toString n ≠ "-0" := by
  intro hzero
  obtain ⟨sign, hsign, htext⟩ := toList_int_cases n
  rw [hzero] at htext
  change ['-', '0'] = _ at htext
  rcases hsign with ⟨rfl, -⟩ | ⟨rfl, hn⟩
  · have hminus : '-' ∈ Nat.toDigits 10 n.natAbs := by
      rw [List.nil_append] at htext
      rw [← htext]
      exact List.mem_cons_self
    exact (digit_of_mem hminus).2.2.1 rfl
  · have hdigits : ['0'] = Nat.toDigits 10 n.natAbs := (List.cons.inj htext).2
    apply head?_toDigits (n := n.natAbs) (by omega)
    rw [← hdigits]
    rfl

theorem int64?_int {n : Int} (h : int64Min ≤ n ∧ n ≤ int64Max) : (Json.int n).int64? = some n := by
  obtain ⟨sign, hsign, htext⟩ := toList_int_cases n
  have hplus : ((toString n).toList.head? == some '+') = false := by
    rw [htext]
    rcases hsign with ⟨rfl, -⟩ | ⟨rfl, -⟩
    · apply beq_eq_false_iff_ne.mpr
      intro hhead
      have hdigit := isDigit_of_mem (List.mem_of_head? hhead)
      cases hdigit
    · rfl
  rw [Json.int, int64?, integerWithin?, if_neg (Bool.eq_false_iff.mp hplus), htext]
  · rcases hsign with ⟨rfl, hn⟩ | ⟨rfl, hn⟩
    · have habs : (n.natAbs : Int) = n := Int.natAbs_of_nonneg hn
      have hread := int64?_toDigits (n := n.natAbs) (by rw [habs]; exact h.2)
      rw [habs] at hread
      exact hread
    · have habs : -(n.natAbs : Int) = n := by omega
      have hread := integer?_neg (n := n.natAbs) (by rw [habs]; exact h.1)
      rw [habs] at hread
      exact hread
  · exact toString_ne_minus_zero n

/-! ## Members in another order -/

/-- A document, and one that has the members of one object in another order or is the same. -/
inductive Reorder : Json → Json → Prop
  | same (j : Json) : Reorder j j
  | members {ms ms' : List (Option String × Json)} (h : ms.Perm ms') :
      Reorder (object ms) (object ms')
  | item {before after : List Json} {j j' : Json} (h : Reorder j j') :
      Reorder (array (before ++ j :: after)) (array (before ++ j' :: after))
  | member {before after : List (Option String × Json)} {name : Option String} {j j' : Json}
      (h : Reorder j j') :
      Reorder (object (before ++ (name, j) :: after)) (object (before ++ (name, j') :: after))

abbrev Reordered : Json → Json → Prop := Relation.ReflTransGen Reorder

theorem Reordered.item {j j' : Json} (h : Reordered j j') (before after : List Json) :
    Reordered (array (before ++ j :: after)) (array (before ++ j' :: after)) :=
  Relation.ReflTransGen.lift (fun k => array (before ++ k :: after)) (fun _ _ hk => Reorder.item hk)
    _ _ h

theorem Reordered.member {j j' : Json} (h : Reordered j j')
    (before after : List (Option String × Json)) (name : Option String) :
    Reordered (object (before ++ (name, j) :: after)) (object (before ++ (name, j') :: after)) :=
  Relation.ReflTransGen.lift (fun k => object (before ++ (name, k) :: after))
    (fun _ _ hk => Reorder.member hk) _ _ h

theorem reordered_reverse (members : List (Option String × Json)) :
    Reordered (object members) (object members.reverse) :=
  .single (.members (List.reverse_perm members).symm)

theorem Proper.reorder {j j' : Json} (hr : Reorder j j') (h : Proper j) : Proper j' := by
  induction hr with
  | same => exact h
  | members hperm =>
    cases h with
    | object hnames hms =>
      exact .object (fun m hm => hnames m (hperm.mem_iff.mpr hm))
        fun m hm => hms m (hperm.mem_iff.mpr hm)
  | item _ ih =>
    cases h with
    | array hitems =>
      apply Proper.array
      rw [List.forall_mem_append, List.forall_mem_cons] at hitems ⊢
      exact ⟨hitems.1, ih hitems.2.1, hitems.2.2⟩
  | member _ ih =>
    cases h with
    | object hnames hms =>
      rw [List.forall_mem_append, List.forall_mem_cons] at hnames hms
      apply Proper.object
      · rw [List.forall_mem_append, List.forall_mem_cons]
        exact ⟨hnames.1, hnames.2.1, hnames.2.2⟩
      · rw [List.forall_mem_append, List.forall_mem_cons]
        exact ⟨hms.1, ih hms.2.1, hms.2.2⟩

theorem Proper.reordered {j j' : Json} (hr : Reordered j j') (h : Proper j) : Proper j' := by
  induction hr with
  | refl => exact h
  | tail _ hstep ih => exact ih.reorder hstep

variable {j j' : Json}

theorem text?_reorder (h : Reorder j j') : j.text? = j'.text? := by
  cases h <;> rfl

theorem int64?_reorder (h : Reorder j j') : j.int64? = j'.int64? := by
  cases h <;> rfl

theorem choice?_object {ms : List (Option String × Json)} (h : ms.length ≠ 1) :
    (object ms).choice? = none := by
  match ms with
  | [] => rfl
  | [_] => exact absurd rfl h
  | _ :: _ :: _ => simp [choice?]

/-- Only an object with one member is the name of a choice, and that has but one order. -/
theorem choice?_reorder (h : Reorder j j') : j.choice? = j'.choice? := by
  cases h with
  | same => rfl
  | @members ms ms' hperm =>
    by_cases hone : ms.length = 1
    · obtain ⟨m, rfl⟩ := List.length_eq_one_iff.mp hone
      rw [List.singleton_perm.mp hperm]
    · rw [choice?_object hone, choice?_object (by rwa [← hperm.length_eq])]
  | item => rfl
  | @member before after name k k' h =>
    by_cases hone : (before ++ (name, k) :: after).length = 1
    · rw [List.length_append, List.length_cons] at hone
      obtain rfl : before = [] := List.length_eq_zero_iff.mp (by omega)
      obtain rfl : after = [] := List.length_eq_zero_iff.mp (by omega)
      cases h <;> rfl
    · have hone' : (before ++ (name, k') :: after).length ≠ 1 := by
        simpa using hone
      rw [choice?_object hone, choice?_object hone']

theorem forall₂_same (js : List Json) : List.Forall₂ Reorder js js :=
  List.forall₂_same.mpr fun j _ => .same j

theorem forall₂_item {before after : List Json} (h : Reorder j j') :
    List.Forall₂ Reorder (before ++ j :: after) (before ++ j' :: after) :=
  List.rel_append (forall₂_same before) (.cons h (forall₂_same after))

theorem rel_same {α : Type} {R : α → α → Prop} (h : ∀ a, R a a) (a : Option α) :
    Option.Rel R a a := by
  cases a with
  | none => exact .none
  | some a => exact .some (h a)

theorem items?_reorder (h : Reorder j j') :
    Option.Rel (List.Forall₂ Reorder) j.items? j'.items? := by
  cases h with
  | same => exact rel_same forall₂_same _
  | members => exact .none
  | item h => exact .some (forall₂_item h)
  | member => exact .none

theorem single?_perm {ms ms' : List (Option String × Json)} (h : ms.Perm ms') (name : String) :
    single? ms name = single? ms' name := by
  have hfilter := h.filter fun m => m.1 == some name
  have hlength := hfilter.length_eq
  unfold single?
  generalize ms.filter (fun m => m.1 == some name) = found at hfilter hlength ⊢
  generalize ms'.filter (fun m => m.1 == some name) = found' at hfilter hlength ⊢
  match found, found' with
  | [], [] => rfl
  | [m], [m'] => rw [List.singleton_perm_singleton.mp hfilter]
  | _ :: _ :: _, _ :: _ :: _ => rfl
  | [], _ :: _ => cases hlength
  | _ :: _, [] => cases hlength
  | [_], _ :: _ :: _ => cases hlength
  | _ :: _ :: _, [_] => cases hlength

theorem single?_member {before after : List (Option String × Json)} {name : Option String}
    (h : Reorder j j') (wanted : String) :
    Option.Rel (Option.Rel Reorder) (single? (before ++ (name, j) :: after) wanted)
      (single? (before ++ (name, j') :: after) wanted) := by
  have hsame : ∀ ms : List (Option String × Json),
      List.Forall₂ (fun m m' => Reorder m.2 m'.2) ms ms := fun ms =>
    List.forall₂_same.mpr fun m _ => .same m.2
  have hfound : List.Forall₂ (fun m m' => Reorder m.2 m'.2)
      ((before ++ (name, j) :: after).filter fun m => m.1 == some wanted)
      ((before ++ (name, j') :: after).filter fun m => m.1 == some wanted) := by
    rw [List.filter_append, List.filter_append, List.filter_cons, List.filter_cons]
    apply List.rel_append (hsame _)
    split
    · exact .cons h (hsame _)
    · exact hsame _
  unfold single?
  generalize (before ++ (name, j) :: after).filter _ = found at hfound ⊢
  generalize (before ++ (name, j') :: after).filter _ = found' at hfound ⊢
  rcases hfound with _ | ⟨hm, _ | ⟨_, _⟩⟩
  · exact .some .none
  · exact .some (.some hm)
  · exact .none

theorem rel_bind {α β γ δ : Type} {S : α → β → Prop} {R : γ → δ → Prop} {f : α → Option γ}
    {g : β → Option δ} (hfg : ∀ a b, S a b → Option.Rel R (f a) (g b)) {a : Option α}
    {b : Option β} (h : Option.Rel S a b) : Option.Rel R (a.bind f) (b.bind g) := by
  cases h with
  | none => exact .none
  | some h => exact hfg _ _ h

theorem bind_eq_of_rel {α β γ : Type} {S : α → β → Prop} {f : α → Option γ} {g : β → Option γ}
    (hfg : ∀ a b, S a b → f a = g b) {a : Option α} {b : Option β} (h : Option.Rel S a b) :
    a.bind f = b.bind g := by
  cases h with
  | none => rfl
  | some h => exact hfg _ _ h

theorem rel_mapM {α β γ δ : Type} {S : α → β → Prop} {R : γ → δ → Prop} {f : α → Option γ}
    {g : β → Option δ} (hfg : ∀ a b, S a b → Option.Rel R (f a) (g b)) {as : List α} {bs : List β}
    (h : List.Forall₂ S as bs) : Option.Rel (List.Forall₂ R) (as.mapM f) (bs.mapM g) := by
  induction h with
  | nil => exact .some .nil
  | @cons a b as bs hab _ ih =>
    rw [List.mapM_cons, List.mapM_cons]
    apply rel_bind _ (hfg a b hab)
    intro c d hcd
    apply rel_bind _ ih
    intro cs ds hrest
    exact .some (.cons hcd hrest)

theorem fields?_reorder (names : List String) (h : Reorder j j') :
    Option.Rel (List.Forall₂ (Option.Rel Reorder)) (fields? names j) (fields? names j') := by
  have hsame : ∀ fs : List (Option Json), List.Forall₂ (Option.Rel Reorder) fs fs := fun fs =>
    List.forall₂_same.mpr fun f _ => rel_same .same f
  cases h with
  | same => exact rel_same hsame _
  | @members ms ms' hperm =>
    have hfields : fields? names (object ms) = fields? names (object ms') := by
      rw [fields?, fields?, hperm.all_eq, funext (single?_perm hperm)]
    rw [hfields]
    exact rel_same hsame _
  | @item before after k k' h =>
    rw [fields?, fields?, List.length_append, List.length_append, List.length_cons,
      List.length_cons]
    split
    · apply Option.Rel.some
      apply List.rel_append _ (hsame _)
      rw [List.forall₂_map_left_iff, List.forall₂_map_right_iff]
      exact (forall₂_item h).imp fun _ _ => .some
    · exact .none
  | @member before after name k k' h =>
    rw [fields?, fields?, List.all_append, List.all_append, List.all_cons, List.all_cons]
    split
    · apply rel_mapM _ (List.forall₂_same.mpr fun _ _ => rfl)
      rintro wanted _ rfl
      exact single?_member h wanted
    · exact .none

theorem allFields?_reorder (names : List String) (h : Reorder j j') :
    Option.Rel (List.Forall₂ Reorder) (Document.allFields? names j)
      (Document.allFields? names j') := by
  apply rel_bind _ (fields?_reorder names h)
  intro fs fs' hfs
  exact rel_mapM (fun _ _ hf => hf) hfs

/-! ## Records that are written -/

theorem mapM_eq_some {α β : Type} {f : α → Option β} {g : α → β} {as : List α}
    (h : ∀ a ∈ as, f a = some (g a)) : as.mapM f = some (as.map g) := by
  induction as with
  | nil => rfl
  | cons a as ih =>
    rw [List.mapM_cons, h a List.mem_cons_self, ih fun b hb => h b (List.mem_cons_of_mem a hb)]
    rfl

theorem filter_name {ms : List (String × Json)} (h : (ms.map Prod.fst).Nodup) {name : String}
    {v : Json} (hm : (name, v) ∈ ms) : (ms.filter fun m => m.1 == name) = [(name, v)] := by
  induction ms with
  | nil => cases hm
  | cons m ms ih =>
    rw [List.map_cons, List.nodup_cons] at h
    rw [List.filter_cons]
    rcases List.mem_cons.mp hm with rfl | hm
    · have hrest : (ms.filter fun m => m.1 == name) = [] := by
        rw [List.filter_eq_nil_iff]
        intro n hn hname
        exact h.1 (List.mem_map.mpr ⟨n, hn, eq_of_beq hname⟩)
      rw [if_pos (beq_self_eq_true name), hrest]
    · have hne : ¬ (m.1 == name) = true := by
        intro hname
        exact h.1 (List.mem_map.mpr ⟨_, hm, (eq_of_beq hname).symm⟩)
      rw [if_neg hne, ih h.2 hm]

theorem single?_struct {ms : List (String × Json)} (h : (ms.map Prod.fst).Nodup)
    {m : String × Json} (hm : m ∈ ms) :
    single? (ms.map fun m => (some m.1, m.2)) m.1 = some (some m.2) := by
  have hfilter : (ms.map fun n => (some n.1, n.2)).filter (fun n => n.1 == some m.1) =
      [(some m.1, m.2)] := by
    rw [List.filter_map]
    exact congrArg (List.map _) (filter_name h hm)
  rw [single?, hfilter]

theorem allFields?_struct {ms : List (String × Json)} (h : (ms.map Prod.fst).Nodup) :
    Document.allFields? (ms.map Prod.fst) (struct ms) = some (ms.map Prod.snd) := by
  have hnames : (ms.map fun m => (some m.1, m.2)).all (fun m => m.1.isSome) = true := by
    simp
  have hfields : fields? (ms.map Prod.fst) (struct ms) = some (ms.map fun m => some m.2) := by
    rw [struct, fields?, if_pos hnames, List.mapM_map]
    exact mapM_eq_some fun m hm => single?_struct h hm
  change (fields? (ms.map Prod.fst) (struct ms)).bind _ = _
  rw [hfields, Option.bind_some, List.mapM_map]
  exact mapM_eq_some fun _ _ => rfl

theorem proper_struct {ms : List (String × Json)} (h : ∀ m ∈ ms, Proper m.2) :
    Proper (struct ms) := by
  apply Proper.object
  · intro m hm
    obtain ⟨n, _, rfl⟩ := List.mem_map.mp hm
    rfl
  · intro m hm
    obtain ⟨n, hn, rfl⟩ := List.mem_map.mp hm
    exact h n hn

end Json

end Offside
