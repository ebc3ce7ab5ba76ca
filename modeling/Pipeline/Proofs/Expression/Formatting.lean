import Mathlib.Data.List.Induction
import Mathlib.Data.List.TakeWhile
import Pipeline.Expression.Function

/-! Templates of `format`. A template that is put together from texts, with every brace in them
written twice, and from numbers of arguments in braces is read as it was put together. -/

namespace Pipeline

variable {digits : List Char} {c : Char}

theorem digitsValue?_concat (digits : List Char) (hc : c.isDigit = true) :
    digitsValue? 10 (digits ++ [c]) =
      (digitsValue? 10 digits).map fun n => n * 10 + (c.toNat - '0'.toNat) := by
  have hdigit : c.toNat - '0'.toNat < 10 := by
    have hbounds := Char.isDigit_iff_toNat.mp hc
    simp only [Char.reduceToNat] at hbounds ⊢
    omega
  simp only [digitsValue?, List.foldlM_append, List.foldlM_cons, List.foldlM_nil, hc, hdigit,
    if_true]
  exact (Option.map_eq_bind ..).symm

theorem digitsValue?_eq_ofDigitChars (h : ∀ c ∈ digits, c.isDigit = true) :
    digitsValue? 10 digits = some (Nat.ofDigitChars 10 digits 0) := by
  induction digits using List.reverseRecOn with
  | nil => rfl
  | append_singleton front c ih =>
    rw [List.forall_mem_append, List.forall_mem_singleton] at h
    rw [digitsValue?_concat front h.2, ih h.1, Option.map_some, Nat.ofDigitChars_append,
      Nat.ofDigitChars_cons, Nat.ofDigitChars_nil, Nat.mul_comm]

theorem digitsValue?_toDigits (n : Nat) : digitsValue? 10 (Nat.toDigits 10 n) = some n := by
  have hdigits : ∀ c ∈ Nat.toDigits 10 n, c.isDigit = true :=
    fun c hc => Nat.isDigit_of_mem_toDigits (by decide) (by decide) hc
  rw [digitsValue?_eq_ofDigitChars hdigits, Nat.ofDigitChars_ten_toDigits]

namespace Expression

theorem argumentNumber?_toDigits {n : Nat} (h : n < twoTo 64) :
    argumentNumber? (Nat.toDigits 10 n) = some n := by
  have hvalue := digitsValue?_toDigits n
  have hdigits : ∀ c ∈ Nat.toDigits 10 n, c.isDigit = true :=
    fun c hc => Nat.isDigit_of_mem_toDigits (by decide) (by decide) hc
  cases htext : Nat.toDigits 10 n with
  | nil => exact absurd htext Nat.toDigits_ne_nil
  | cons c rest =>
    rw [htext] at hvalue hdigits
    have hsign : c ≠ '+' := by
      rintro rfl
      exact absurd (hdigits _ List.mem_cons_self) (by decide)
    simp [argumentNumber?, hsign, hvalue, h]

/-! ### One piece of a template after the other -/

variable {args : List Json} {rest : List Char}

theorem formatTemplate_plain (hopen : c ≠ '\x7b') (hclose : c ≠ '\x7d') :
    formatTemplate args (c :: rest) = (formatTemplate args rest).map (c :: ·) := by
  rw [formatTemplate]
  · rfl
  all_goals simp [hopen, hclose]

theorem formatTemplate_twice (h : c = '\x7b' ∨ c = '\x7d') :
    formatTemplate args (c :: c :: rest) = (formatTemplate args rest).map (c :: ·) := by
  rcases h with rfl | rfl
  · rw [formatTemplate]
    rfl
  · rw [formatTemplate]
    rfl

theorem formatTemplate_argument {n : Nat} (hn : n < twoTo 64) (hargs : n < args.length) :
    formatTemplate args ('\x7b' :: (Nat.toDigits 10 n ++ '\x7d' :: rest)) =
      (formatTemplate args rest).map ((toText args[n]).toList ++ ·) := by
  have hdigits : ∀ c ∈ Nat.toDigits 10 n, (c != '\x7d') = true ∧ c ≠ '\x7b' := by
    intro c hc
    have hdigit := Nat.isDigit_of_mem_toDigits (by decide) (by decide) hc
    constructor
    · rw [bne_iff_ne]
      rintro rfl
      exact absurd hdigit (by decide)
    · rintro rfl
      exact absurd hdigit (by decide)
  have hname : (Nat.toDigits 10 n ++ '\x7d' :: rest).takeWhile (· != '\x7d') =
      Nat.toDigits 10 n := by
    rw [List.takeWhile_append_of_pos fun c hc => (hdigits c hc).1]
    simp
  have hrest : (Nat.toDigits 10 n ++ '\x7d' :: rest).dropWhile (· != '\x7d') = '\x7d' :: rest := by
    rw [List.dropWhile_append_of_pos fun c hc => (hdigits c hc).1]
    simp
  rw [formatTemplate, hname, hrest, argumentNumber?_toDigits hn]
  · simp only [List.getElem?_eq_getElem hargs]
    rfl
  · -- The number begins with a digit, so the brace in front of it is not written twice.
    intro rest heq
    cases htext : Nat.toDigits 10 n with
    | nil => exact Nat.toDigits_ne_nil htext
    | cons c others =>
      rw [htext] at heq hdigits
      exact (hdigits c List.mem_cons_self).2 (List.cons.inj heq).1

/-! ### Templates put together from pieces -/

/-- A piece of a template: text as it stands, or the number of one of so many arguments. -/
inductive FormatPiece (count : Nat) where
  | text (content : String)
  | argument (number : Fin count)

namespace FormatPiece

def doubled (c : Char) : List Char :=
  if c = '\x7b' ∨ c = '\x7d' then [c, c] else [c]

/-- How a piece is written: the braces of a text twice, and a number between braces. -/
def written {count : Nat} : FormatPiece count → String
  | text content => String.ofList (content.toList.flatMap doubled)
  | argument number => "\x7b" ++ toString number.val ++ "\x7d"

/-- What a piece stands for. -/
def value (args : List Json) : FormatPiece args.length → String
  | text content => content
  | argument number => toText args[number]

end FormatPiece

open FormatPiece (doubled)

theorem map_map_append {α : Type} (x : Except EvalError (List α)) (front back : List α) :
    (x.map (back ++ ·)).map (front ++ ·) = x.map (front ++ back ++ ·) := by
  cases x with
  | error e => rfl
  | ok cs => exact congrArg Except.ok (List.append_assoc front back cs).symm

theorem formatTemplate_doubled (cs rest : List Char) :
    formatTemplate args (cs.flatMap doubled ++ rest) =
      (formatTemplate args rest).map (cs ++ ·) := by
  induction cs with
  | nil =>
    show formatTemplate args rest = (formatTemplate args rest).map id
    cases formatTemplate args rest <;> rfl
  | cons c cs ih =>
    have hfirst (following : List Char) : formatTemplate args (doubled c ++ following) =
        (formatTemplate args following).map (c :: ·) := by
      unfold doubled
      split
      · next hbrace => exact formatTemplate_twice hbrace
      · next hbrace =>
        obtain ⟨hopen, hclose⟩ := not_or.mp hbrace
        exact formatTemplate_plain hopen hclose
    rw [List.flatMap_cons, List.append_assoc, hfirst, ih]
    exact map_map_append _ [c] cs

theorem formatTemplate_written (hcount : args.length ≤ twoTo 64) (piece : FormatPiece args.length)
    (rest : List Char) :
    formatTemplate args (piece.written.toList ++ rest) =
      (formatTemplate args rest).map ((piece.value args).toList ++ ·) := by
  cases piece with
  | text content =>
    rw [FormatPiece.written, String.toList_ofList]
    exact formatTemplate_doubled content.toList rest
  | argument number =>
    have hnumber : number.val < twoTo 64 := Nat.lt_of_lt_of_le number.isLt hcount
    have hspell : (FormatPiece.argument number).written.toList ++ rest =
        '\x7b' :: (Nat.toDigits 10 number ++ '\x7d' :: rest) := by
      simp [FormatPiece.written, Nat.toString_eq_repr, Nat.toList_repr]
    rw [hspell]
    exact formatTemplate_argument hnumber number.isLt

theorem formatTemplate_pieces (hcount : args.length ≤ twoTo 64)
    (pieces : List (FormatPiece args.length)) :
    formatTemplate args (String.join (pieces.map FormatPiece.written)).toList =
      .ok (String.join (pieces.map (FormatPiece.value args))).toList := by
  induction pieces with
  | nil =>
    show formatTemplate args [] = .ok []
    rw [formatTemplate]
  | cons piece pieces ih =>
    rw [List.map_cons, String.join_cons, String.toList_append, formatTemplate_written hcount, ih,
      List.map_cons, String.join_cons, String.toList_append]
    rfl

/-- A template is formatted to its texts and the texts of its arguments, in order, whatever
characters the texts hold, and whatever the arguments say: they are no part of the template. -/
theorem call_format_pieces {args : List Json} (hcount : args.length ≤ twoTo 64)
    (pieces : List (FormatPiece args.length)) (name : String) (flags : JobFlags) :
    Builtin.format.call name
        (.string (String.join (pieces.map FormatPiece.written)) :: args) flags =
      .ok (.string (String.join (pieces.map (FormatPiece.value args)))) := by
  show (do
    let text ← formatTemplate args (String.join (pieces.map FormatPiece.written)).toList
    pure (Json.string (String.ofList text))) = _
  rw [formatTemplate_pieces hcount]
  show Except.ok (Json.string (String.ofList _)) = _
  rw [String.ofList_toList]

/-- An argument in braces, which are texts of their own; it looks like a template itself. -/
theorem call_format_pieces_braces :
    [Json.string "\x7b1\x7d", .bool true].length ≤ twoTo 64 ∧
      Builtin.format.call "format"
          [.string "\x7b\x7b\x7b0\x7d\x7d\x7d-\x7b1\x7d", .string "\x7b1\x7d", .bool true] .ok =
        .ok (.string "\x7b\x7b1\x7d\x7d-true") := by
  let pieces : List (FormatPiece 2) :=
    [.text "\x7b", .argument 0, .text "\x7d-", .argument 1]
  have hcount : [Json.string "\x7b1\x7d", .bool true].length ≤ twoTo 64 := by decide
  have htemplate : String.join (pieces.map FormatPiece.written) =
      "\x7b\x7b\x7b0\x7d\x7d\x7d-\x7b1\x7d" := by decide +kernel
  have hresult : String.join
      (pieces.map (FormatPiece.value [Json.string "\x7b1\x7d", .bool true])) =
        "\x7b\x7b1\x7d\x7d-true" := by decide +kernel
  refine ⟨hcount, ?_⟩
  rw [← htemplate, ← hresult]
  exact call_format_pieces hcount pieces "format" .ok

end Expression

end Pipeline
