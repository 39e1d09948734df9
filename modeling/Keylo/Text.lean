import Mathlib.Algebra.Group.Nat.Defs
import Mathlib.Data.List.Infix

/-!
# Text operations

The operations on `str` that the verified code applies to request fields. They are written on
the characters of a string, so that they reduce on concrete strings.
-/

namespace Keylo

/-- The characters with the Unicode property `White_Space` (`char::is_whitespace`). -/
def isWhitespace (c : Char) : Bool :=
  let n := c.toNat
  (0x9 ≤ n && n ≤ 0xD) || n == 0x20 || n == 0x85 || n == 0xA0 || n == 0x1680 ||
    (0x2000 ≤ n && n ≤ 0x200A) || n == 0x2028 || n == 0x2029 || n == 0x202F || n == 0x205F ||
    n == 0x3000

/-- `str::trim`. -/
def trim (s : String) : String :=
  String.ofList (((s.toList.dropWhile isWhitespace).reverse.dropWhile isWhitespace).reverse)

/-- `u8::is_ascii_digit`. -/
def isAsciiDigit (c : Char) : Bool := '0' ≤ c && c ≤ '9'

/-- `u8::is_ascii_hexdigit`. -/
def isAsciiHexdigit (c : Char) : Bool :=
  isAsciiDigit c || ('a' ≤ c && c ≤ 'f') || ('A' ≤ c && c ≤ 'F')

/-- The pieces of a list of characters between the ones with the property `p`. -/
def pieces (p : Char → Bool) : List Char → List (List Char)
  | [] => [[]]
  | c :: cs =>
    if p c then [] :: pieces p cs
    else
      match pieces p cs with
      | [] => [[c]]
      | piece :: rest => (c :: piece) :: rest

/-- `str::split` on one character. -/
def splitOn (sep : Char) (s : String) : List String :=
  (pieces (· == sep) s.toList).map String.ofList

/-- `str::split_once` on a predicate of characters: the parts before and after the first match. -/
def splitOnce (p : Char → Bool) (s : String) : Option (String × String) :=
  match s.toList.dropWhile fun c => !p c with
  | [] => none
  | _ :: rest => some (String.ofList (s.toList.takeWhile fun c => !p c), String.ofList rest)

/-- `u8::is_ascii_whitespace`. -/
def isAsciiWhitespace (c : Char) : Bool :=
  c == ' ' || c == '\t' || c == '\n' || c == '\x0c' || c == '\r'

/-- `str::split_ascii_whitespace`. -/
def splitAsciiWhitespace (s : String) : List String :=
  ((pieces isAsciiWhitespace s.toList).filter fun piece => !piece.isEmpty).map String.ofList

/-- `u8::is_ascii_alphanumeric`. -/
def isAsciiAlphanumeric (c : Char) : Bool :=
  isAsciiDigit c || ('a' ≤ c && c ≤ 'z') || ('A' ≤ c && c ≤ 'Z')

/-- `char::is_ascii_uppercase`. -/
def isAsciiUppercase (c : Char) : Bool := 'A' ≤ c && c ≤ 'Z'

/-- `char::is_ascii_lowercase`. -/
def isAsciiLowercase (c : Char) : Bool := 'a' ≤ c && c ≤ 'z'

/-- `str::contains` of a text. -/
def contains (s part : String) : Bool := decide (part.toList <:+: s.toList)

/-- `str::eq_ignore_ascii_case`. -/
def eqIgnoreAsciiCase (s t : String) : Bool :=
  s.toList.map Char.toLower == t.toList.map Char.toLower

/-! ### Splitting and lengths -/

variable {p : Char → Bool}

theorem pieces_eq_singleton {l : List Char} (h : ∀ c ∈ l, p c = false) : pieces p l = [l] := by
  induction l with
  | nil => rfl
  | cons c l ih =>
    rw [pieces, h c List.mem_cons_self, ih fun c hc => h c (.tail _ hc)]
    rfl

theorem pieces_append_cons {l r : List Char} {d : Char} (h : ∀ c ∈ l, p c = false)
    (hd : p d = true) : pieces p (l ++ d :: r) = l :: pieces p r := by
  induction l with
  | nil => rw [List.nil_append, pieces, hd, if_pos rfl]
  | cons c l ih =>
    rw [List.cons_append, pieces, h c List.mem_cons_self, ih fun c hc => h c (.tail _ hc)]
    rfl

/-- A text of three parts without the separator is split into them. -/
theorem splitOn_three (sep : Char) {a b c : String} (ha : sep ∉ a.toList) (hb : sep ∉ b.toList)
    (hc : sep ∉ c.toList) :
    splitOn sep (a ++ String.singleton sep ++ b ++ String.singleton sep ++ c) = [a, b, c] := by
  have hnot : ∀ {s : String}, sep ∉ s.toList → ∀ d ∈ s.toList, (d == sep) = false := by
    rintro s hs d hd
    exact beq_eq_false_iff_ne.2 fun heq => hs (heq ▸ hd)
  have hlist : (a ++ String.singleton sep ++ b ++ String.singleton sep ++ c).toList =
      a.toList ++ sep :: (b.toList ++ sep :: c.toList) := by simp
  rw [splitOn, hlist, pieces_append_cons (hnot ha) (by simp),
    pieces_append_cons (hnot hb) (by simp), pieces_eq_singleton (hnot hc)]
  simp

theorem utf8Size_of_isAsciiHexdigit {c : Char} (h : isAsciiHexdigit c = true) : c.utf8Size = 1 := by
  rw [Char.utf8Size_eq_one_iff]
  simp only [isAsciiHexdigit, isAsciiDigit, Char.le_def, Bool.or_eq_true, Bool.and_eq_true,
    decide_eq_true_eq] at h
  grind

/-- A text of characters of one byte has as many bytes as characters. -/
theorem utf8ByteSize_eq_length {s : String} (h : ∀ c ∈ s.toList, c.utf8Size = 1) :
    s.utf8ByteSize = s.toList.length := by
  have hencode : ∀ l : List Char, (∀ c ∈ l, c.utf8Size = 1) → l.utf8Encode.size = l.length := by
    intro l hl
    induction l with
    | nil => rfl
    | cons c l ih =>
      rw [List.utf8Encode_cons, ByteArray.size_append, ih fun c hc => hl c (.tail _ hc)]
      have hc : [c].utf8Encode.size = 1 := by simp [List.utf8Encode_singleton, hl c]
      rw [hc, List.length_cons, Nat.add_comm]
  rw [← hencode s.toList h, ← String.toByteArray_ofList, String.ofList_toList,
    String.size_toByteArray]

example : trim "  a b " = "a b" := by decide

example : splitOn '.' "v1.n." = ["v1", "n", ""] := by decide

example : splitAsciiWhitespace " openid  email" = ["openid", "email"] := by decide

end Keylo
