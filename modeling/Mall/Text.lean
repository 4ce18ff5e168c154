/-
The text operations that payment methods, keys and provider answers go through.

Case mapping follows `unicode.ToLower` and `unicode.ToUpper` on ASCII and on the
four other letters whose image is an ASCII letter; every comparison in the
program is against ASCII text.
-/

import Mathlib.Data.List.DropRight

namespace Mall

def isSpace (letter : Char) : Bool :=
  let code := letter.toNat
  (9 ≤ code && code ≤ 13) || code == 0x20 || code == 0x85 || code == 0xA0 || code == 0x1680 ||
    (0x2000 ≤ code && code ≤ 0x200A) || code == 0x2028 || code == 0x2029 || code == 0x202F ||
    code == 0x205F || code == 0x3000

def trimSpace (text : String) : String :=
  String.ofList (((text.toList.dropWhile isSpace).reverse.dropWhile isSpace).reverse)

def lowerLetter (letter : Char) : Char :=
  if letter.toNat = 0x130 then 'i' else if letter.toNat = 0x212A then 'k' else letter.toLower

def upperLetter (letter : Char) : Char :=
  if letter.toNat = 0x131 then 'I' else if letter.toNat = 0x17F then 'S' else letter.toUpper

def toLower (text : String) : String :=
  String.ofList (text.toList.map lowerLetter)

def toUpper (text : String) : String :=
  String.ofList (text.toList.map upperLetter)

/-- `strings.Split` at a one-letter separator: never empty. -/
def splitLetters (separator : Char) : List Char → List (List Char)
  | [] => [[]]
  | letter :: rest =>
      if letter = separator then [] :: splitLetters separator rest
      else
        match splitLetters separator rest with
        | [] => [[letter]]
        | part :: parts => (letter :: part) :: parts

def split (separator : Char) (text : String) : List String :=
  (splitLetters separator text.toList).map String.ofList

/-- A nullable text column holds `NULL` for the empty string. -/
def nullable (text : String) : Option String :=
  if text = "" then none else some text

/-! ### Normal forms -/

private theorem toNat_lowerLetter (letter : Char) :
    (lowerLetter letter).toNat =
      if letter.toNat = 0x130 then 105 else if letter.toNat = 0x212A then 107
      else if 65 ≤ letter.toNat ∧ letter.toNat ≤ 90 then letter.toNat + 32 else letter.toNat := by
  unfold lowerLetter
  split
  · rfl
  · split
    · rfl
    · unfold Char.toLower
      have range : letter.val ≥ 'A'.val ∧ letter.val ≤ 'Z'.val ↔
          65 ≤ letter.toNat ∧ letter.toNat ≤ 90 := by
        rw [ge_iff_le, UInt32.le_iff_toNat_le, UInt32.le_iff_toNat_le]
        exact Iff.rfl
      split
      · next upper =>
        rw [if_pos (range.mp upper)]
        have small := (range.mp upper).2
        change (letter.val + 32).toNat = letter.toNat + 32
        rw [UInt32.toNat_add]
        change (letter.toNat + 32) % 2 ^ 32 = letter.toNat + 32
        omega
      · next other => rw [if_neg (fun upper => other (range.mpr upper))]

private theorem lowerLetter_lowerLetter (letter : Char) :
    lowerLetter (lowerLetter letter) = lowerLetter letter := by
  apply Char.toNat_inj.mp
  rw [toNat_lowerLetter (lowerLetter letter), toNat_lowerLetter letter]
  split_ifs <;> omega

private theorem isSpace_lowerLetter (letter : Char) :
    isSpace (lowerLetter letter) = isSpace letter := by
  rw [Bool.eq_iff_iff]
  simp only [isSpace, toNat_lowerLetter, Bool.or_eq_true, Bool.and_eq_true, decide_eq_true_eq,
    beq_iff_eq]
  split_ifs <;> omega

def trimLetters (letters : List Char) : List Char :=
  (letters.dropWhile isSpace).rdropWhile isSpace

private theorem trimSpace_toList (text : String) :
    (trimSpace text).toList = trimLetters text.toList := by
  rw [trimSpace, String.toList_ofList]
  rfl

theorem trimLetters_trimLetters (letters : List Char) :
    trimLetters (trimLetters letters) = trimLetters letters := by
  unfold trimLetters
  have front : ((letters.dropWhile isSpace).rdropWhile isSpace).dropWhile isSpace =
      (letters.dropWhile isSpace).rdropWhile isSpace := by
    cases kept : (letters.dropWhile isSpace).rdropWhile isSpace with
    | nil => rfl
    | cons first rest =>
        obtain ⟨cut, whole⟩ := List.rdropWhile_prefix isSpace (letters.dropWhile isSpace)
        rw [kept] at whole
        have visible : isSpace first = false := by
          have again := List.dropWhile_idempotent isSpace letters
          rw [← whole] at again
          cases space : isSpace first with
          | false => rfl
          | true =>
              rw [List.cons_append, List.dropWhile_cons_of_pos space] at again
              have shorter := (List.dropWhile_sublist isSpace (l := rest ++ cut)).length_le
              rw [again, List.length_cons] at shorter
              omega
        exact List.dropWhile_cons_of_neg (by rw [visible]; nofun)
  rw [front, List.rdropWhile_idempotent]

private theorem trimLetters_map (letters : List Char) :
    trimLetters (letters.map lowerLetter) = (trimLetters letters).map lowerLetter := by
  have same : isSpace ∘ lowerLetter = isSpace := funext isSpace_lowerLetter
  unfold trimLetters List.rdropWhile
  rw [List.dropWhile_map, same, ← List.map_reverse, List.dropWhile_map, same, List.map_reverse]

private theorem toLower_trimSpace_again (text : String) :
    toLower (trimSpace (toLower (trimSpace text))) = toLower (trimSpace text) := by
  apply String.toList_inj.mp
  simp only [toLower, trimSpace_toList, String.toList_ofList, trimLetters_map,
    trimLetters_trimLetters, List.map_map]
  congr 1
  exact funext lowerLetter_lowerLetter

/-! ### Payment methods -/

structure PaymentMethod where
  provider : String
  product : String
deriving DecidableEq, Repr

def PaymentMethod.normalize (method : PaymentMethod) : PaymentMethod :=
  { provider := toLower (trimSpace method.provider)
    product := toLower (trimSpace method.product) }

def PaymentMethod.string (method : PaymentMethod) : String :=
  let normal := method.normalize
  if normal.provider = "" ∨ normal.product = "" then ""
  else normal.provider ++ ":" ++ normal.product

def parsePaymentMethod (value : String) : Option PaymentMethod :=
  match split ':' (toLower (trimSpace value)) with
  | [provider, product] =>
      if provider = "" ∨ product = "" then none
      else some { provider := provider, product := product }
  | _ => none

theorem PaymentMethod.string_normalize (method : PaymentMethod) :
    method.normalize.string = method.string := by
  have again : method.normalize.normalize = method.normalize := by
    simp only [PaymentMethod.normalize, toLower_trimSpace_again]
  rw [PaymentMethod.string, PaymentMethod.string, again]

example : parsePaymentMethod " Alipay:WAP" = some ⟨"alipay", "wap"⟩ := by decide

end Mall
