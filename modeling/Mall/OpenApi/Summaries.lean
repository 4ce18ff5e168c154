/-
Summaries of operations, on octets as the documentation tool cuts them.

A text of the tool is a sequence of octets, usually UTF-8.  The text functions below are
those of the standard library on any octets: what is no letter is no space.
-/

import Mall.Foundation.Utf8
import Mall.Text

namespace Mall.OpenApi

open Utf8

/-! ### Text functions -/

def trimLeft : Nat → Octets → Octets
  | 0, text => text
  | fuel + 1, text =>
      match letter? text with
      | some letter => if isSpace letter then trimLeft fuel (text.drop letter.utf8Size) else text
      | none => text

def trimRight : Nat → Octets → Octets
  | 0, text => text
  | fuel + 1, text =>
      match lastLetter? text with
      | some letter =>
          if isSpace letter then trimRight fuel (text.take (text.length - letter.utf8Size)) else text
      | none => text

/-- `strings.TrimSpace`: no text holds more letters than octets. -/
def trimOctets (text : Octets) : Octets :=
  let text := trimLeft text.length text
  trimRight text.length text

def cutLine (text : Octets) : Option Octets :=
  if 10 ∈ text then some (text.takeWhile (fun octet => decide (octet ≠ 10))) else none

/-- `strings.Index` for a pattern that is not empty. -/
def index (pattern : Octets) : Octets → Option Nat
  | [] => none
  | octet :: rest =>
      if pattern.isPrefixOf (octet :: rest) then some 0
      else (index pattern rest).map (· + 1)

def fullStop : Octets := encode ['。']

def ellipsis : Octets := encode ['…']

def firstSentence (text : Octets) : Octets :=
  let text := trimOctets text
  let text := (cutLine text).elim text trimOctets
  let text := (index fullStop text).elim text (fun stop => text.take (stop + fullStop.length))
  if 160 < text.length then trimOctets (text.take 160) ++ ellipsis else text

/-! ### The same on letters -/

def firstLine (letters : List Char) : List Char :=
  trimLetters ((trimLetters letters).takeWhile (fun letter => decide (letter ≠ '\n')))

def sentence (line : List Char) : List Char :=
  line.takeWhile (fun letter => decide (letter ≠ '。')) ++ (if '。' ∈ line then ['。'] else [])

/-! ### Trimming -/

private theorem trimLeft_encode {letters : List Char} {fuel : Nat}
    (enough : letters.length ≤ fuel) :
    trimLeft fuel (encode letters) = encode (letters.dropWhile isSpace) := by
  induction letters generalizing fuel with
  | nil =>
      cases fuel with
      | zero => rfl
      | succ fuel => rfl
  | cons letter rest ih =>
      cases fuel with
      | zero => exact absurd enough (Nat.not_succ_le_zero _)
      | succ fuel =>
          have front : letter? (encode (letter :: rest)) = some letter :=
            letter?_eq_some.mpr (List.prefix_append _ _)
          rw [trimLeft, front]
          dsimp only
          split
          · next space =>
            rw [List.dropWhile_cons_of_pos space, encode_cons, ← String.length_utf8EncodeChar,
              List.drop_left]
            exact ih (Nat.le_of_succ_le_succ enough)
          · next visible => rw [List.dropWhile_cons_of_neg visible]

private theorem trimRight_encode {letters : List Char} {fuel : Nat}
    (enough : letters.length ≤ fuel) :
    trimRight fuel (encode letters) = encode (letters.rdropWhile isSpace) := by
  induction letters using List.reverseRecOn generalizing fuel with
  | nil =>
      cases fuel with
      | zero => rfl
      | succ fuel => rfl
  | append_singleton rest letter ih =>
      cases fuel with
      | zero => simp at enough
      | succ fuel =>
          have last : lastLetter? (encode (rest ++ [letter])) = some letter := by
            apply lastLetter?_eq_some.mpr
            rw [encode_append, encode_singleton]
            exact List.suffix_append _ _
          rw [trimRight, last]
          dsimp only
          split
          · next space =>
            rw [List.rdropWhile_concat_pos isSpace rest letter space, encode_append, encode_singleton,
              List.length_append, String.length_utf8EncodeChar, Nat.add_sub_cancel, List.take_left]
            apply ih
            rw [List.length_append, List.length_singleton] at enough
            omega
          · next visible => rw [List.rdropWhile_concat_neg isSpace rest letter visible]

private theorem trimOctets_encode (letters : List Char) :
    trimOctets (encode letters) = encode (trimLetters letters) := by
  rw [trimOctets, trimLeft_encode (length_le_length_encode letters),
    trimRight_encode (length_le_length_encode _)]
  rfl

/-- A text that begins with a visible letter and ends in a broken one stays. -/
theorem trimOctets_broken {whole : List Char} {part : Octets} {first : Char} {rest : List Char}
    (broken : Broken part) (starts : whole = first :: rest) (visible : isSpace first = false) :
    trimOctets (encode whole ++ part) = encode whole ++ part := by
  have left : ∀ fuel, trimLeft fuel (encode whole ++ part) = encode whole ++ part := by
    intro fuel
    cases fuel with
    | zero => rfl
    | succ fuel =>
        have front : letter? (encode whole ++ part) = some first := by
          apply letter?_eq_some.mpr
          rw [starts, encode_cons, List.append_assoc]
          exact List.prefix_append _ _
        rw [trimLeft, front]
        exact if_neg (by rw [visible]; nofun)
  have right : ∀ fuel, trimRight fuel (encode whole ++ part) = encode whole ++ part := by
    intro fuel
    cases fuel with
    | zero => rfl
    | succ fuel => rw [trimRight, broken.lastLetter?]
  rw [trimOctets, left, right]

/-! ### Lines and sentences -/

private theorem newline_mem_encodeChar (letter : Char) :
    (10 : UInt8) ∈ String.utf8EncodeChar letter ↔ letter = '\n' := by
  constructor
  · intro member
    obtain ⟨first, rest, split, _, inside⟩ := encodeChar_eq_cons letter
    rw [split] at member
    rcases List.mem_cons.mp member with same | behind
    · apply eq_of_encodeChar_front List.prefix_rfl
      rw [split, ← same]
      exact ⟨rest, rfl⟩
    · exact absurd (by decide) (inside 10 behind)
  · rintro rfl
    decide

private theorem newline_mem_encode (letters : List Char) :
    (10 : UInt8) ∈ encode letters ↔ '\n' ∈ letters := by
  rw [encode, List.mem_flatMap]
  constructor
  · rintro ⟨letter, member, newline⟩
    rw [newline_mem_encodeChar] at newline
    exact newline ▸ member
  · intro member
    exact ⟨'\n', member, (newline_mem_encodeChar _).mpr rfl⟩

private theorem takeWhile_encode (letters : List Char) :
    (encode letters).takeWhile (fun octet => decide (octet ≠ 10)) =
      encode (letters.takeWhile (fun letter => decide (letter ≠ '\n'))) := by
  induction letters with
  | nil => rfl
  | cons letter rest ih =>
      by_cases newline : letter = '\n'
      · subst newline
        rfl
      · have none : ∀ octet ∈ String.utf8EncodeChar letter, decide (octet ≠ 10) = true := by
          intro octet member
          apply decide_eq_true
          rintro rfl
          exact newline ((newline_mem_encodeChar letter).mp member)
        have kept : (letter :: rest).takeWhile (fun letter => decide (letter ≠ '\n')) =
            letter :: rest.takeWhile (fun letter => decide (letter ≠ '\n')) := by
          simp [newline]
        rw [encode_cons, List.takeWhile_append_of_pos none, ih, kept, encode_cons]

private theorem takeWhile_eq_self {letters : List Char} (none : '\n' ∉ letters) :
    letters.takeWhile (fun letter => decide (letter ≠ '\n')) = letters := by
  rw [List.takeWhile_eq_self_iff]
  intro letter member
  apply decide_eq_true
  rintro rfl
  exact none member

private theorem firstLine_encode (letters : List Char) :
    (cutLine (trimOctets (encode letters))).elim (trimOctets (encode letters)) trimOctets =
      encode (firstLine letters) := by
  rw [trimOctets_encode, cutLine, firstLine]
  by_cases newline : '\n' ∈ trimLetters letters
  · rw [if_pos ((newline_mem_encode _).mpr newline), Option.elim_some, takeWhile_encode,
      trimOctets_encode]
  · rw [if_neg (fun member => newline ((newline_mem_encode _).mp member)), Option.elim_none,
      takeWhile_eq_self newline, trimLetters_trimLetters]

/-- A letter is not found inside another one. -/
theorem index_tail {letter : Char} {octets tail : Octets}
    (inside : ∀ octet ∈ tail, ¬ octet.IsUTF8FirstByte) :
    index (String.utf8EncodeChar letter) (tail ++ octets) =
      (index (String.utf8EncodeChar letter) octets).map (· + tail.length) := by
  obtain ⟨first, rest, split, begins, _⟩ := encodeChar_eq_cons letter
  induction tail with
  | nil => simp
  | cons octet tail ih =>
      have other : (String.utf8EncodeChar letter).isPrefixOf (octet :: (tail ++ octets)) = false := by
        rw [Bool.eq_false_iff]
        intro front
        rw [List.isPrefixOf_iff_prefix, split, List.cons_prefix_cons] at front
        exact inside octet List.mem_cons_self (front.1 ▸ begins)
      rw [List.cons_append, index, other, if_neg Bool.false_ne_true,
        ih (fun octet member => inside octet (List.mem_cons_of_mem _ member)), Option.map_map]
      rfl

private theorem index_encode (letter : Char) (letters : List Char) :
    index (String.utf8EncodeChar letter) (encode letters) =
      if letter ∈ letters then
        some (encode (letters.takeWhile (fun other => decide (other ≠ letter)))).length
      else none := by
  induction letters with
  | nil => rfl
  | cons other rest ih =>
      obtain ⟨first, tail, split, _, inside⟩ := encodeChar_eq_cons other
      by_cases here : other = letter
      · subst here
        rw [if_pos List.mem_cons_self, List.takeWhile_cons_of_neg (by simp), encode_cons, split]
        have front : (first :: tail).isPrefixOf (first :: (tail ++ encode rest)) = true := by
          rw [List.isPrefixOf_iff_prefix]
          exact List.prefix_append (first :: tail) (encode rest)
        rw [List.cons_append, index, if_pos front]
        rfl
      · have apart : (String.utf8EncodeChar letter).isPrefixOf (first :: (tail ++ encode rest)) =
            false := by
          rw [Bool.eq_false_iff]
          intro front
          rw [List.isPrefixOf_iff_prefix, ← List.cons_append, ← split] at front
          exact here (eq_of_encodeChar_front (List.prefix_append _ (encode rest)) front)
        have kept : (other :: rest).takeWhile (fun other => decide (other ≠ letter)) =
            other :: rest.takeWhile (fun other => decide (other ≠ letter)) := by
          simp [here]
        have later : letter ∈ other :: rest ↔ letter ∈ rest := by
          rw [List.mem_cons, or_iff_right (fun same => here same.symm)]
        rw [encode_cons, split, List.cons_append, index, apart, if_neg Bool.false_ne_true,
          index_tail inside, ih, kept, encode_cons, split, if_congr later rfl rfl]
        split
        · simp only [Option.map_some, List.length_append, List.length_cons, Option.some.injEq]
          omega
        · rfl

private theorem sentence_front (line : List Char) : sentence line <+: line := by
  induction line with
  | nil => exact List.nil_prefix
  | cons letter rest ih =>
      by_cases here : letter = '。'
      · subst here
        have whole : sentence ('。' :: rest) = ['。'] := by simp [sentence]
        rw [whole]
        exact ⟨rest, rfl⟩
      · have whole : sentence (letter :: rest) = letter :: sentence rest := by
          have other : ¬ '。' = letter := fun same => here same.symm
          simp [sentence, here, other]
        rw [whole, List.cons_prefix_cons]
        exact ⟨rfl, ih⟩

private theorem sentence_encode (line : List Char) :
    (index fullStop (encode line)).elim (encode line)
        (fun stop => (encode line).take (stop + fullStop.length)) = encode (sentence line) := by
  have found := index_encode '。' line
  rw [fullStop, encode_singleton, found]
  by_cases stops : '。' ∈ line
  · rw [if_pos stops, Option.elim_some]
    obtain ⟨rest, whole⟩ := sentence_front line
    have size : (encode (line.takeWhile (fun letter => decide (letter ≠ '。')))).length +
        (String.utf8EncodeChar '。').length = (encode (sentence line)).length := by
      rw [sentence, if_pos stops, encode_append, encode_singleton, List.length_append]
    have text : encode line = encode (sentence line) ++ encode rest := by
      rw [← encode_append, whole]
    rw [size, text, List.take_left]
  · rw [if_neg stops, Option.elim_none, sentence, if_neg stops, List.append_nil]
    congr 1
    symm
    rw [List.takeWhile_eq_self_iff]
    intro letter member
    apply decide_eq_true
    rintro rfl
    exact stops member

private theorem firstSentence_encode (letters : List Char) :
    firstSentence (encode letters) =
      if 160 < (encode (sentence (firstLine letters))).length then
        trimOctets ((encode (sentence (firstLine letters))).take 160) ++ ellipsis
      else encode (sentence (firstLine letters)) := by
  rw [firstSentence]
  simp only [firstLine_encode, sentence_encode]

/-! ### Cuts -/

private theorem newline_not_mem_firstLine (letters : List Char) : '\n' ∉ firstLine letters := by
  intro member
  have inside := (List.rdropWhile_prefix _ _).subset member
  have line := (List.dropWhile_sublist isSpace).subset inside
  have other := List.mem_takeWhile_imp line
  simp at other

private theorem firstLine_visible {letters rest : List Char} {first : Char}
    (starts : firstLine letters = first :: rest) : isSpace first = false := by
  have trimmed : trimLetters (firstLine letters) = firstLine letters := trimLetters_trimLetters _
  cases space : isSpace first with
  | false => rfl
  | true =>
      rw [starts, trimLetters, List.dropWhile_cons_of_pos space] at trimmed
      have length := (List.rdropWhile_prefix isSpace _).length_le.trans
        (List.dropWhile_sublist isSpace (l := rest)).length_le
      rw [trimmed, List.length_cons] at length
      omega

/-- The sentence can be cut after 160 octets without breaking a letter. -/
def CutsWhole (line : List Char) : Prop :=
  (encode (sentence line)).length ≤ 160 ∨
    ∃ whole rest, sentence line = whole ++ rest ∧ (encode whole).length = 160

/-- Summaries are whole letters of the line: the kept part and the ellipsis of a cut. -/
def Summarises (letters : List Char) (summary : Octets) : Prop :=
  ∃ kept, kept <+: firstLine letters ∧ '\n' ∉ kept ∧
    summary = encode (kept ++ (if 160 < (encode (sentence (firstLine letters))).length then ['…']
      else []))

private theorem summarises_of_cutsWhole {letters : List Char}
    (whole : CutsWhole (firstLine letters)) :
    Summarises letters (firstSentence (encode letters)) := by
  have line := sentence_front (firstLine letters)
  rw [firstSentence_encode]
  rcases whole with short | ⟨whole, rest, split, size⟩
  · rw [if_neg (Nat.not_lt.mpr short)]
    refine ⟨sentence (firstLine letters), line, ?_, ?_⟩
    · exact fun member => newline_not_mem_firstLine letters (line.subset member)
    · rw [if_neg (Nat.not_lt.mpr short), List.append_nil]
  · have long : 160 ≤ (encode (sentence (firstLine letters))).length := by
      rw [split, encode_append, List.length_append, size]
      exact Nat.le_add_right _ _
    have cut : (encode (sentence (firstLine letters))).take 160 = encode whole := by
      rw [split, encode_append, ← size, List.take_left]
    have front : whole <+: firstLine letters := by
      refine List.IsPrefix.trans ?_ line
      rw [split]
      exact List.prefix_append _ _
    -- The cut begins like the line, so that only its end is trimmed.
    have kept : trimLetters whole <+: whole := by
      cases whole with
      | nil => cases size
      | cons first others =>
          obtain ⟨more, together⟩ := front
          have visible := firstLine_visible together.symm
          rw [trimLetters, List.dropWhile_cons_of_neg (by rw [visible]; nofun)]
          exact List.rdropWhile_prefix _ _
    by_cases longer : 160 < (encode (sentence (firstLine letters))).length
    · rw [if_pos longer, cut, trimOctets_encode]
      refine ⟨trimLetters whole, kept.trans front, ?_, ?_⟩
      · exact fun member => newline_not_mem_firstLine letters ((kept.trans front).subset member)
      · rw [if_pos longer, encode_append]
        rfl
    · rw [if_neg longer]
      refine ⟨sentence (firstLine letters), line, ?_, ?_⟩
      · exact fun member => newline_not_mem_firstLine letters (line.subset member)
      · rw [if_neg longer, List.append_nil]

/-- A cut inside a letter leaves octets that are no text. -/
theorem firstSentence_broken {letters whole rest : List Char} {letter : Char}
    (split : sentence (firstLine letters) = whole ++ letter :: rest)
    (after : (encode whole).length < 160) (before : 160 < (encode whole).length + letter.utf8Size)
    (text : List Char) : firstSentence (encode letters) ≠ encode text := by
  have long : 160 < (encode (sentence (firstLine letters))).length := by
    rw [split, encode_append, encode_cons, List.length_append, List.length_append,
      String.length_utf8EncodeChar]
    omega
  have broken : Broken ((String.utf8EncodeChar letter).take (160 - (encode whole).length)) :=
    broken_take (by omega) (by omega)
  have cut : (encode (sentence (firstLine letters))).take 160 =
      encode whole ++ (String.utf8EncodeChar letter).take (160 - (encode whole).length) := by
    rw [split, encode_append, encode_cons, List.take_append,
      List.take_of_length_le after.le, List.take_append_of_le_length]
    rw [String.length_utf8EncodeChar]
    omega
  have front : whole <+: firstLine letters := by
    refine List.IsPrefix.trans ?_ (sentence_front (firstLine letters))
    rw [split]
    exact List.prefix_append _ _
  rw [firstSentence_encode, if_pos long, cut]
  cases whole with
  | nil =>
      have small := letter.utf8Size_le_four
      rw [encode_nil, List.length_nil] at before
      omega
  | cons first others =>
      obtain ⟨more, together⟩ := front
      rw [trimOctets_broken broken rfl (firstLine_visible together.symm), List.append_assoc]
      exact (broken.encode_ne (by decide) text (first :: others) [128, 166]).symm

/-- A summary is valid text from the line exactly if its cut falls between letters. -/
theorem firstSentence_summarises_iff (description : String) :
    Summarises description.toList (firstSentence (encode description.toList)) ↔
      CutsWhole (firstLine description.toList) := by
  constructor
  · rintro ⟨kept, _, _, text⟩
    by_cases short : (encode (sentence (firstLine description.toList))).length ≤ 160
    · exact .inl short
    · rcases cut_cases (sentence (firstLine description.toList)) (Nat.le_of_not_le short) with
        between | ⟨whole, letter, rest, split, after, before⟩
      · exact .inr between
      · exact absurd text (firstSentence_broken split after before _)
  · exact summarises_of_cutsWhole

/-- Fifty-four letters of three octets each are cut in the last one. -/
theorem firstSentence_chinese :
    ¬ Summarises (List.replicate 54 '中') (firstSentence (encode (List.replicate 54 '中'))) := by
  rintro ⟨kept, _, _, text⟩
  have split : sentence (firstLine (List.replicate 54 '中')) = List.replicate 53 '中' ++ '中' :: [] := by
    decide
  exact firstSentence_broken split (by decide +kernel) (by decide +kernel) _ text

end Mall.OpenApi
