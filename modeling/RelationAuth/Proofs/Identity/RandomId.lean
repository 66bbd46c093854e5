import RelationAuth.Identity.RandomId

/-!
# Random ids name principals

Whatever its free digits, a random id is not empty, and it holds none of the marks by which a text
names a set.
-/

namespace RelationAuth

theorem Json.hexDigit_ne_colon {digit : Nat} (bounded : digit < 16) : hexDigit digit ≠ ':' := by
  revert digit
  decide

namespace Identity.RandomId

theorem colon_not_mem_hexDigits (count value : Nat) : ':' ∉ hexDigits count value := by
  induction count generalizing value with
  | zero => simp [hexDigits]
  | succ count ih =>
    have last := Json.hexDigit_ne_colon (Nat.mod_lt value (by decide : 0 < 16))
    simp [hexDigits, ih, last.symm]

theorem colon_not_mem_ofNumber (number : Nat) : ':' ∉ (ofNumber number).toList := by
  have digits := colon_not_mem_hexDigits 30 (number / 4)
  have part : ∀ skipped taken, ':' ∉ ((hexDigits 30 (number / 4)).drop skipped).take taken := by
    intro skipped taken mem
    exact digits (List.mem_of_mem_drop (List.mem_of_mem_take mem))
  have first : ':' ∉ (hexDigits 30 (number / 4)).take 8 := part 0 8
  have last : ':' ∉ (hexDigits 30 (number / 4)).drop 18 := by
    intro mem
    exact digits (List.mem_of_mem_drop mem)
  have variant : Json.hexDigit (8 + number % 4) ≠ ':' := by
    apply Json.hexDigit_ne_colon
    omega
  simp [ofNumber, List.intercalate, List.intersperse, first, part, last, variant.symm]

theorem ofNumber_ne_empty (number : Nat) : ofNumber number ≠ "" := by
  intro empty
  have chars := congrArg String.toList empty
  simp [ofNumber, List.intercalate, List.intersperse] at chars

end Identity.RandomId

end RelationAuth
