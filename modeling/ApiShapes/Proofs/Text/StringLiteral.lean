import ApiShapes.Proofs.Shape.Lines
import ApiShapes.Proofs.Source.TypePhrases
import ApiShapes.Proofs.Text.Identifier

/-!
# Quoted texts as string literals

* `units16` : the value of a text as a string, its units of 16 bits; they tell the text (`units16_injective`);
* `Escape`, `Characters`, `DoubleQuoted` : what stands behind a backslash, the characters up to the closing
  quote, and a literal between double quotes, each with its value and what follows it: one rule for each
  production of the language's grammar for strict code, which has no octal escapes;
* `PropertyName` : the name of a property as it stands in a type, quoted or bare;
* `characters_escapeChar`, `doubleQuoted_quote` : a quoted text is one literal whatever follows it, in one way
  only, and its value is the text;
* `propertyKey_undone` : hence texts are told by how they are quoted, and names by how they are written as
  keys. A key without quotes is an identifier of ASCII characters, and every such identifier is one.
-/

namespace ApiShapes.Text

/-! ## Values of strings -/

/-- A code point in units of 16 bits: one unit, or the two halves of a pair. -/
def codeUnits (code : Nat) : List Nat :=
  if code < 0x10000 then [code]
  else [0xD800 + (code - 0x10000) / 0x400, 0xDC00 + (code - 0x10000) % 0x400]

def units16 (s : String) : List Nat :=
  s.toList.flatMap fun c => codeUnits c.toNat

theorem codeUnits_ne_nil (code : Nat) : codeUnits code ≠ [] := by
  unfold codeUnits
  split <;> exact List.cons_ne_nil _ _

/-- No character is a half of a pair, so that the units of one end where those of the next begin. -/
theorem codeUnits_append_inj {c d : Char} {x y : List Nat}
    (h : codeUnits c.toNat ++ x = codeUnits d.toNat ++ y) : c = d ∧ x = y := by
  have hvalid : ∀ e : Char, e.toNat < 0xD800 ∨ 0xDFFF < e.toNat ∧ e.toNat < 0x110000 := fun e => e.valid
  have hc := hvalid c
  have hd := hvalid d
  rw [← Char.toNat_inj]
  unfold codeUnits at h
  split at h <;> split at h
  all_goals
    simp only [List.cons_append, List.nil_append, List.cons.injEq] at h
    obtain ⟨hunit, htail⟩ := h
  · exact ⟨hunit, htail⟩
  · omega
  · omega
  · obtain ⟨hlow, htail⟩ := htail
    exact ⟨by omega, htail⟩

theorem flatMap_codeUnits_inj {cs ds : List Char}
    (h : cs.flatMap (fun c => codeUnits c.toNat) = ds.flatMap fun c => codeUnits c.toNat) : cs = ds := by
  induction cs generalizing ds with
  | nil =>
    cases ds with
    | nil => rfl
    | cons d ds => exact absurd (List.append_eq_nil_iff.1 h.symm).1 (codeUnits_ne_nil _)
  | cons c cs ih =>
    cases ds with
    | nil => exact absurd (List.append_eq_nil_iff.1 h).1 (codeUnits_ne_nil _)
    | cons d ds =>
      rw [List.flatMap_cons, List.flatMap_cons] at h
      obtain ⟨rfl, hrest⟩ := codeUnits_append_inj h
      rw [ih hrest]

theorem units16_injective : Function.Injective units16 := fun _ _ h =>
  String.toList_inj.1 (flatMap_codeUnits_inj h)

/-! ## String literals -/

/-- Characters that a backslash gives a meaning of their own, and the units they then stand for. -/
def singleEscapes : List (Char × Nat) :=
  [('\'', 0x27), ('"', 0x22), ('\\', 0x5C), ('b', 0x08), ('f', 0x0C), ('n', 0x0A), ('r', 0x0D), ('t', 0x09),
    ('v', 0x0B)]

/-- The character begins an escape of more than itself. -/
def isEscapeStart (c : Char) : Bool :=
  singleEscapes.any (·.1 == c) || c.isDigit || c == 'x' || c == 'u'

/-- What stands behind a backslash, the units it adds to the value, and what follows it. -/
inductive Escape : List Char → List Nat → List Char → Prop where
  | single {c : Char} {unit : Nat} {rest : List Char} (h : (c, unit) ∈ singleEscapes) :
      Escape (c :: rest) [unit] rest
  /-- any other character stands for itself -/
  | itself {c : Char} {rest : List Char} (hstart : isEscapeStart c = false)
      (hline : Source.isLineBreak c = false) : Escape (c :: rest) (codeUnits c.toNat) rest
  /-- a zero that is no digit of a number -/
  | null {rest : List Char} (h : ∀ d ∈ rest.head?, d.isDigit = false) : Escape ('0' :: rest) [0] rest
  | hex {a b : Char} {code : Nat} {rest : List Char} (h : hexNumber [a, b] = some code) :
      Escape ('x' :: a :: b :: rest) [code] rest
  | unit {a b c d : Char} {code : Nat} {rest : List Char} (h : hexNumber [a, b, c, d] = some code) :
      Escape ('u' :: a :: b :: c :: d :: rest) [code] rest
  | codePoint {digits : List Char} {code : Nat} {rest : List Char} (hne : digits ≠ [])
      (h : hexNumber digits = some code) (hmax : code ≤ 0x10FFFF) :
      Escape ('u' :: '{' :: (digits ++ '}' :: rest)) (codeUnits code) rest
  /-- a line that goes on below adds nothing -/
  | continued {c : Char} {rest : List Char} (hline : Source.isLineBreak c = true)
      (h : c = '\r' → rest.head? ≠ some '\n') : Escape (c :: rest) [] rest
  | continuedCrlf {rest : List Char} : Escape ('\r' :: '\n' :: rest) [] rest

/-- The characters of a literal up to its closing quote, their value, and what follows the quote. -/
inductive Characters : List Char → List Nat → List Char → Prop where
  | close {rest : List Char} : Characters ('"' :: rest) [] rest
  /-- line and paragraph separators may stand in a literal, the two ASCII line breaks may not -/
  | plain {c : Char} {cs rest : List Char} {value : List Nat} (hquote : c ≠ '"') (hslash : c ≠ '\\')
      (hline : c ≠ '\n') (hreturn : c ≠ '\r') (h : Characters cs value rest) :
      Characters (c :: cs) (codeUnits c.toNat ++ value) rest
  | escape {cs after rest : List Char} {units value : List Nat} (hescape : Escape cs units after)
      (h : Characters after value rest) : Characters ('\\' :: cs) (units ++ value) rest

/-- A literal between double quotes at the start of a text, its value, and what follows it. -/
inductive DoubleQuoted : List Char → List Nat → List Char → Prop where
  | intro {cs rest : List Char} {value : List Nat} (h : Characters cs value rest) :
      DoubleQuoted ('"' :: cs) value rest

/-- The name of a property at the start of a text, its value, and what follows it: a literal, or an identifier
as far as it goes. -/
inductive PropertyName : List Char → List Nat → List Char → Prop where
  | quoted {cs rest : List Char} {value : List Nat} (h : DoubleQuoted cs value rest) :
      PropertyName cs value rest
  | bare {name : String} {rest : List Char} (hname : isIdentifier name = true)
      (hrest : Source.Boundary rest) : PropertyName (name.toList ++ rest) (units16 name) rest

variable {c : Char} {unit : Nat} {cs after rest : List Char} {units value : List Nat}

/-! ## Reading what is written -/

theorem escape_single_iff (hc : (c, unit) ∈ singleEscapes) :
    Escape (c :: rest) units after ↔ units = [unit] ∧ after = rest := by
  constructor
  · intro h
    cases h with
    | single h =>
      have hsame : ∀ entry ∈ singleEscapes, ∀ other ∈ singleEscapes, entry.1 = other.1 → entry = other := by
        decide
      cases hsame _ h _ hc rfl
      exact ⟨rfl, rfl⟩
    | itself hstart _ =>
      have hfound : singleEscapes.any (·.1 == c) = true := List.any_eq_true.2 ⟨_, hc, beq_self_eq_true c⟩
      simp [isEscapeStart, hfound] at hstart
    | continued hline _ =>
      have hnone : ∀ entry ∈ singleEscapes, Source.isLineBreak entry.1 = false := by decide
      simp [hnone _ hc] at hline
    | _ => simp [singleEscapes] at hc
  · rintro ⟨rfl, rfl⟩
    exact .single hc

theorem characters_close_iff :
    Characters ('"' :: rest) value after ↔ value = [] ∧ after = rest := by
  constructor
  · intro h
    cases h with
    | close => exact ⟨rfl, rfl⟩
    | plain hquote _ _ _ _ => exact absurd rfl hquote
  · rintro ⟨rfl, rfl⟩
    exact .close

theorem characters_plain_iff (hquote : c ≠ '"') (hslash : c ≠ '\\') (hline : c ≠ '\n') (hreturn : c ≠ '\r') :
    Characters (c :: cs) value rest ↔
      ∃ tail, value = codeUnits c.toNat ++ tail ∧ Characters cs tail rest := by
  constructor
  · intro h
    cases h with
    | close => exact absurd rfl hquote
    | plain _ _ _ _ h => exact ⟨_, rfl, h⟩
    | escape _ _ => exact absurd rfl hslash
  · rintro ⟨tail, rfl, h⟩
    exact .plain hquote hslash hline hreturn h

theorem characters_single_iff (hc : (c, unit) ∈ singleEscapes) :
    Characters ('\\' :: c :: cs) value rest ↔ ∃ tail, value = [unit] ++ tail ∧ Characters cs tail rest := by
  constructor
  · intro h
    cases h with
    | plain _ hslash _ _ _ => exact absurd rfl hslash
    | escape hescape h =>
      obtain ⟨rfl, rfl⟩ := (escape_single_iff hc).1 hescape
      exact ⟨_, rfl, h⟩
  · rintro ⟨tail, rfl, h⟩
    exact .escape (.single hc) h

/-- A character as it is written between quotes is read as that character. -/
theorem characters_escapeChar (c : Char) : Characters (escapeChar c ++ cs) value rest ↔
    ∃ tail, value = codeUnits c.toNat ++ tail ∧ Characters cs tail rest := by
  fun_cases escapeChar c
  case case6 hslash hquote hline hreturn _ => exact characters_plain_iff hquote hslash hline hreturn
  all_goals exact characters_single_iff (by decide)

theorem characters_escape_iff (cs : List Char) :
    Characters (cs.flatMap escapeChar ++ '"' :: rest) value after ↔ value = cs.flatMap (fun c => codeUnits c.toNat) ∧ after = rest := by
  induction cs generalizing value with
  | nil => exact characters_close_iff
  | cons c cs ih =>
    rw [List.flatMap_cons, List.append_assoc, characters_escapeChar]
    simp only [ih, List.flatMap_cons]
    constructor
    · rintro ⟨tail, rfl, rfl, rfl⟩
      exact ⟨rfl, rfl⟩
    · rintro ⟨rfl, rfl⟩
      exact ⟨_, rfl, rfl, rfl⟩

/-- A quoted text is one literal, whatever follows it, and its value is the text. -/
theorem doubleQuoted_quote (s : String) (rest : List Char) {value : List Nat} {after : List Char} :
    DoubleQuoted ((quote s).toList ++ rest) value after ↔ value = units16 s ∧ after = rest := by
  have hchars : (quote s).toList ++ rest = '"' :: (s.toList.flatMap escapeChar ++ '"' :: rest) := by
    simp [quote, escape]
  rw [hchars, units16, ← characters_escape_iff s.toList]
  constructor
  · rintro ⟨h⟩
    exact h
  · exact .intro

theorem quote_injective : Function.Injective quote := by
  intro s t h
  have hs : DoubleQuoted ((quote t).toList ++ []) (units16 s) [] := by
    rw [← h]
    exact (doubleQuoted_quote s []).2 ⟨rfl, rfl⟩
  exact units16_injective ((doubleQuoted_quote t []).1 hs).1

/-! ## Keys -/

theorem head?_quote (s : String) : (quote s).toList.head? = some '"' := by
  simp [quote]

/-- A text stands without quotes exactly if it is an identifier of ASCII characters. -/
theorem needsQuoting_eq_false_iff {s : String} :
    needsQuoting s = false ↔ isIdentifier s = true ∧ ∀ c ∈ s.toList, c.toNat < 128 := by
  have hstart : ∀ c : Char, c.toNat < 128 → isIdentifierStart c = isKeyStart c := fun c hc => by
    rw [isIdentifierStart, if_pos hc, isKeyStart]
  have hpart : ∀ c : Char, c.toNat < 128 → isIdentifierPart c = isKeyPart c := fun c hc => by
    rw [isIdentifierPart, if_pos hc, isKeyPart]
  have hascii : ∀ c, isKeyPart c = true → c.toNat < 128 := fun c hc =>
    Nat.lt_succ_of_lt (Source.isInk_of_isKeyPart hc).2.1
  unfold needsQuoting isIdentifier
  cases s.toList with
  | nil => simp
  | cons c cs =>
    simp only [Bool.or_eq_false_iff, Bool.not_eq_false', Bool.and_eq_true, List.all_eq_true,
      List.forall_mem_cons]
    constructor
    · rintro ⟨hc, hcs⟩
      have hcode := hascii c (Source.isKeyPart_of_isKeyStart hc)
      refine ⟨⟨by rw [hstart c hcode, hc], fun d hd => ?_⟩, hcode, fun d hd => hascii d (hcs d hd)⟩
      rw [hpart d (hascii d (hcs d hd)), hcs d hd]
    · rintro ⟨⟨hc, hcs⟩, hcode, hcodes⟩
      exact ⟨by rw [← hstart c hcode, hc], fun d hd => by rw [← hpart d (hcodes d hd), hcs d hd]⟩

/-- A key begins with a quote exactly if it is quoted. -/
theorem head?_propertyKey {name : String} :
    (propertyKey name).toList.head? = some '"' ↔ needsQuoting name = true := by
  rw [propertyKey]
  split
  · rename_i hquoted
    simp only [head?_quote, hquoted]
  · rename_i hbare
    refine iff_of_false (fun hhead => ?_) hbare
    have hpart := isKeyPart_of_bare (Bool.eq_false_of_not_eq_true hbare) '"' (List.mem_of_head? hhead)
    cases hpart

theorem propertyKey_injective : Function.Injective propertyKey := by
  intro s t h
  have hquoting : needsQuoting s = needsQuoting t := by
    rw [Bool.eq_iff_iff, ← head?_propertyKey, ← head?_propertyKey, h]
  unfold propertyKey at h
  rw [hquoting] at h
  split at h
  · exact quote_injective h
  · exact h

theorem exists_of_isIdentifier {s : String} (h : isIdentifier s = true) :
    ∃ c cs, s.toList = c :: cs ∧ isIdentifierStart c = true ∧ ∀ d ∈ cs, isIdentifierPart d = true := by
  unfold isIdentifier at h
  split at h
  · cases h
  · next c cs hcs =>
    rw [Bool.and_eq_true, List.all_eq_true] at h
    exact ⟨c, cs, hcs, h.1, h.2⟩

theorem takeWhile_identifier (hcs : ∀ d ∈ cs, isIdentifierPart d = true) (hrest : Source.Boundary rest) :
    (cs ++ rest).takeWhile isIdentifierPart = cs := by
  rw [List.takeWhile_append_of_pos hcs]
  cases rest with
  | nil => exact List.append_nil cs
  | cons c rest => rw [List.takeWhile_cons_of_neg (by simp [(hrest c rfl).1]), List.append_nil]

/-- An identifier ends where no part of one follows. -/
theorem isIdentifier_append_inj {s t : String} (hs : isIdentifier s = true) (ht : isIdentifier t = true)
    (hrest : Source.Boundary rest) (hafter : Source.Boundary after)
    (h : s.toList ++ rest = t.toList ++ after) : s = t ∧ rest = after := by
  obtain ⟨c, cs, hc, -, hcs⟩ := exists_of_isIdentifier hs
  obtain ⟨d, ds, hd, -, hds⟩ := exists_of_isIdentifier ht
  rw [hc, hd, List.cons_append, List.cons_append, List.cons.injEq] at h
  have hparts : cs = ds := by
    rw [← takeWhile_identifier hcs hrest, h.2, takeWhile_identifier hds hafter]
  rw [← String.toList_inj, hc, hd, h.1, hparts]
  rw [hparts] at h
  exact ⟨rfl, List.append_cancel_left h.2⟩

theorem head?_of_isIdentifier {s : String} (h : isIdentifier s = true) (rest : List Char) :
    (s.toList ++ rest).head? ≠ some '"' := by
  obtain ⟨c, cs, hc, hstart, -⟩ := exists_of_isIdentifier h
  rw [hc]
  rintro ⟨⟩
  revert hstart
  decide

theorem DoubleQuoted.head? (h : DoubleQuoted cs value rest) : cs.head? = some '"' := by
  cases h
  rfl

/-- A name as it is written as a key is read as that name, up to where it ends. -/
theorem propertyName_propertyKey (name : String) (hrest : Source.Boundary rest) :
    PropertyName ((propertyKey name).toList ++ rest) value after ↔ value = units16 name ∧ after = rest := by
  rw [propertyKey]
  split
  · rw [← doubleQuoted_quote name rest]
    refine ⟨fun h => ?_, .quoted⟩
    have hhead : ((quote name).toList ++ rest).head? = some '"' := by
      rw [List.head?_append, head?_quote, Option.some_or]
    generalize (quote name).toList ++ rest = text at h hhead
    cases h with
    | quoted h => exact h
    | bare hname _ => exact absurd hhead (head?_of_isIdentifier hname _)
  · next hbare =>
    obtain ⟨hname, -⟩ := needsQuoting_eq_false_iff.1 (Bool.eq_false_of_not_eq_true hbare)
    constructor
    · intro h
      generalize htext : name.toList ++ rest = text at h
      cases h with
      | quoted h =>
        have hhead := h.head?
        rw [← htext] at hhead
        exact absurd hhead (head?_of_isIdentifier hname rest)
      | bare hother hafter =>
        obtain ⟨rfl, rfl⟩ := isIdentifier_append_inj hname hother hrest hafter htext
        exact ⟨rfl, rfl⟩
    · rintro ⟨rfl, rfl⟩
      exact .bare hname hrest

/-- Where the parser reads a key, the key of a name gives that name. -/
theorem key_propertyKey (g : Source.Grammar) (name : String) (hrest : Source.Boundary rest) :
    g.key (.at ((propertyKey name).toList ++ rest)) = some ((some name, false), .at rest) := by
  unfold propertyKey
  split
  · rw [Source.at_quote]
    exact Source.key_run (.inr rfl)
  · rename_i hbare
    rw [Source.at_word (Bool.eq_false_of_not_eq_true hbare) hrest]
    exact Source.key_run (.inl rfl)

/-- **What is quoted is read back.** The quoted form of a text is read as one string literal, in one way only,
up to its closing quote, and its value is the text; it has no line breaks. The keys of two names differ, and
those without quotes are the identifiers of ASCII characters. Where no word goes on behind it, a key is read as
its name, in one way only, and the parser reads that name, too. -/
theorem propertyKey_undone :
    (∀ (s : String) (rest after : List Char) (value : List Nat),
      DoubleQuoted ('"' :: ((escape s).toList ++ '"' :: rest)) value after ↔
        value = units16 s ∧ after = rest) ∧
    Function.Injective units16 ∧
    (∀ s : String, '\n' ∉ (escape s).toList ∧ '\r' ∉ (escape s).toList) ∧
    Function.Injective propertyKey ∧
    (∀ key : String, (∃ name, propertyKey name = key ∧ key.toList.head? ≠ some '"') ↔
      isIdentifier key = true ∧ ∀ c ∈ key.toList, c.toNat < 128) ∧
    (∀ (name : String) (rest after : List Char) (value : List Nat), Source.Boundary rest →
      (PropertyName ((propertyKey name).toList ++ rest) value after ↔ value = units16 name ∧ after = rest)) ∧
    ∀ (g : Source.Grammar) (name : String) (rest : List Char), Source.Boundary rest →
      g.key (.at ((propertyKey name).toList ++ rest)) = some ((some name, false), .at rest) := by
  refine ⟨fun s rest after value => ?_, units16_injective, fun s => ?_, propertyKey_injective, fun key => ?_,
    fun name rest after value hrest => propertyName_propertyKey name hrest,
    fun g name rest hrest => key_propertyKey g name hrest⟩
  · rw [← doubleQuoted_quote s rest]
    simp [quote]
  · have hline : ∀ d ∈ (escape s).toList, d ≠ '\n' ∧ d ≠ '\r' := by
      intro d hd
      rw [escape, String.toList_ofList, List.mem_flatMap] at hd
      obtain ⟨c, -, hd⟩ := hd
      exact escapeChar_ne hd
    exact ⟨fun h => (hline _ h).1 rfl, fun h => (hline _ h).2 rfl⟩
  · rw [← needsQuoting_eq_false_iff]
    constructor
    · rintro ⟨name, rfl, hhead⟩
      rw [Ne, head?_propertyKey, Bool.not_eq_true] at hhead
      rwa [propertyKey, if_neg (by simp [hhead])]
    · intro hbare
      have hkey : propertyKey key = key := by rw [propertyKey, if_neg (by simp [hbare])]
      refine ⟨key, hkey, fun hhead => ?_⟩
      rw [← hkey, head?_propertyKey, hbare] at hhead
      cases hhead

/-- A text with a backslash in front of a quote, and a line break; as a literal before another quote, and as
a key before a colon. -/
theorem propertyKey_undone_escapes :
    DoubleQuoted "\"\\\\\\\"\\n\"\"".toList [0x5C, 0x22, 0x0A] ['"'] ∧ Source.Boundary [':'] ∧
      PropertyName "\"\\\\\\\"\\n\":".toList [0x5C, 0x22, 0x0A] [':'] ∧
      (Source.Grammar.bottom ⟨true, false⟩).key (.at "\"\\\\\\\"\\n\":".toList) =
        some ((some "\\\"\n", false), .at [':']) := by
  obtain ⟨hliteral, -, -, -, -, hname, hkey⟩ := propertyKey_undone
  have hrest : Source.Boundary [':'] := by
    rintro c ⟨⟩
    decide
  refine ⟨(hliteral "\\\"\n" ['"'] _ _).2 ⟨by decide, rfl⟩, hrest, ?_, ?_⟩
  · exact (hname "\\\"\n" [':'] [':'] _ hrest).2 ⟨by decide, rfl⟩
  · exact hkey (.bottom ⟨true, false⟩) "\\\"\n" [':'] hrest

end ApiShapes.Text
