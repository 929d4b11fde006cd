import Mathlib.Data.List.Perm.Subperm
import Proviso.Value.Basic

/-!
Agreement of types. Enumerations agree if they have the same name and the same members in any
order, so agreement is an equivalence, and types that agree have the same values.
-/

namespace Proviso

/-! ## Enumerations -/

theorem lookup_of_nodup {α : Type} {members : List (String × α)} {name : String} {value : α}
    (distinct : (members.map Prod.fst).Nodup) (member : (name, value) ∈ members) :
    members.lookup name = some value := by
  induction members with
  | nil => cases member
  | cons first rest induction =>
    rw [List.map_cons, List.nodup_cons] at distinct
    rcases List.mem_cons.mp member with equal | later
    · simp [← equal]
    · have different : name ≠ first.1 := fun equal =>
        distinct.1 (equal ▸ List.mem_map_of_mem later)
      rw [List.lookup_cons, beq_eq_false_iff_ne.mpr different]
      exact induction distinct.2 later

namespace EnumType

@[simp] theorem agrees_self (type : EnumType) : type.agrees type = true := by
  simp only [agrees, beq_self_eq_true, Bool.true_and, List.all_eq_true, beq_iff_eq]
  intro member isMember
  exact lookup_of_nodup type.distinct isMember

theorem memberOf?_of_valueOf? {type : EnumType} {member : String} {value : Int64}
    (found : type.valueOf? member = some value) : (type.memberOf? value).isSome = true := by
  rcases List.lookup_eq_some_iff.mp found with ⟨before, after, members, _⟩
  rw [memberOf?, Option.isSome_map, List.find?_isSome]
  exact ⟨(member, value), by simp [members], beq_self_eq_true value⟩

theorem agrees_iff_perm {first second : EnumType} :
    first.agrees second = true ↔ first.name = second.name ∧ first.members.Perm second.members := by
  have unfolded : first.agrees second = true ↔ (first.name = second.name ∧
      first.members.length = second.members.length) ∧
        ∀ member ∈ first.members, second.members.lookup member.1 = some member.2 := by
    simp only [agrees, valueOf?, Bool.and_eq_true, beq_iff_eq, List.all_eq_true]
  rw [unfolded]
  constructor
  · rintro ⟨⟨name, length⟩, found⟩
    have nodup : first.members.Nodup :=
      List.Pairwise.of_map Prod.fst (fun _ _ => mt (congrArg Prod.fst)) first.distinct
    have subset : first.members ⊆ second.members := by
      intro member isMember
      rcases List.lookup_eq_some_iff.mp (found member isMember) with ⟨before, after, split, _⟩
      rw [split]
      exact List.mem_append_right _ (List.mem_cons_self ..)
    exact ⟨name, (List.subperm_of_subset nodup subset).perm_of_length_le (Nat.le_of_eq length.symm)⟩
  · rintro ⟨name, perm⟩
    exact ⟨⟨name, perm.length_eq⟩, fun member isMember =>
      lookup_of_nodup second.distinct (perm.mem_iff.mp isMember)⟩

theorem agrees_comm (first second : EnumType) : first.agrees second = second.agrees first := by
  rw [Bool.eq_iff_iff, agrees_iff_perm, agrees_iff_perm, eq_comm, List.perm_comm]

theorem agrees_trans {first second third : EnumType} (agree : first.agrees second = true)
    (further : second.agrees third = true) : first.agrees third = true := by
  rw [agrees_iff_perm] at agree further ⊢
  exact ⟨agree.1.trans further.1, agree.2.trans further.2⟩

theorem isSome_memberOf?_of_agrees {first second : EnumType}
    (agree : first.agrees second = true) (value : Int64) :
    (first.memberOf? value).isSome = (second.memberOf? value).isSome := by
  have perm := (agrees_iff_perm.mp agree).2
  rw [memberOf?, memberOf?, Option.isSome_map, Option.isSome_map, Bool.eq_iff_iff,
    List.find?_isSome, List.find?_isSome]
  simp only [perm.mem_iff]

end EnumType

namespace Ty

theorem agrees_comm (first second : Ty) : first.agrees second = second.agrees first := by
  fun_induction agrees first second with
  | case8 first second => exact first.agrees_comm second
  | case9 first second => exact Bool.beq_comm
  | case10 first second induction => exact induction
  | case12 first second => cases first <;> cases second <;> first | rfl | simp_all
  | _ => rfl

theorem admits_nullable {inner : Ty} {value : Value} :
    (nullable inner).admits value = true ↔ value = .null ∨ inner.admits value = true := by
  cases value with
  | object record => simp [admits]
  | scalar value => cases value <;> simp [admits]

theorem admits_of_agrees {first second : Ty} (agree : first.agrees second = true) {value : Value}
    (admitted : second.admits value = true) : first.admits value = true := by
  fun_induction agrees first second generalizing value with
  | case8 first second =>
    cases value with
    | object record => cases admitted
    | scalar value =>
      cases value with
      | enum member =>
        rw [admits, Bool.and_eq_true] at admitted ⊢
        exact ⟨EnumType.agrees_trans agree admitted.1,
          (EnumType.isSome_memberOf?_of_agrees agree _).trans admitted.2⟩
      | _ => cases admitted
  | case9 first second =>
    cases value with
    | scalar value => cases value <;> cases admitted
    | object record =>
      have sameType : record.type.id = second.id := beq_iff_eq.mp admitted
      exact beq_iff_eq.mpr (sameType.trans (beq_iff_eq.mp agree).symm)
  | case10 first second induction =>
    rw [admits_nullable] at admitted ⊢
    exact admitted.imp_right (induction agree)
  | case12 first second => cases agree
  | _ => exact admitted

end Ty

end Proviso
