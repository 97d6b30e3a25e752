import FlightRelay.Json.Reader
import FlightRelay.Proofs.Json.Literal

/-!
# Reading what was written

A value is legible if its numbers read back as themselves and its containers are not nested too deeply.
The lexer takes the text of a legible value apart into its tokens, and the grammar puts them together
again, so the text is read as the value that was written.
-/

namespace FlightRelay.Json

/-- The value is nested at most `d` deep, and its numbers read back as themselves. -/
inductive Legible : Nat → Value → Prop
  | null {d : Nat} : Legible d .null
  | bool {d : Nat} {b : Bool} : Legible d (.bool b)
  | number {d : Nat} {n : Number} (back : Number.ofLiteral? n.write = some n) : Legible d (.number n)
  | string {d : Nat} {s : String} : Legible d (.string s)
  | array {d : Nat} {items : List Value} (each : ∀ v ∈ items, Legible d v) :
      Legible (d + 1) (.array items)
  | object {d : Nat} {members : List (String × Value)} (each : ∀ m ∈ members, Legible d m.2) :
      Legible (d + 1) (.object members)

namespace Value

mutual

/-- The tokens of a value. -/
def tokens : Value → List Token
  | .null => [.null]
  | .bool b => [.bool b]
  | .number n => [.number n]
  | .string s => [.string s]
  | .array [] => [.openBracket, .closeBracket]
  | .array (v :: vs) => .openBracket :: tokens v ++ itemTokens vs
  | .object [] => [.openBrace, .closeBrace]
  | .object ((k, v) :: ms) => .openBrace :: .string k :: .colon :: tokens v ++ memberTokens ms

/-- The tokens of the items after the first and the closing bracket. -/
def itemTokens : List Value → List Token
  | [] => [.closeBracket]
  | v :: vs => .comma :: tokens v ++ itemTokens vs

/-- The tokens of the members after the first and the closing brace. -/
def memberTokens : List (String × Value) → List Token
  | [] => [.closeBrace]
  | (k, v) :: ms => .comma :: .string k :: .colon :: tokens v ++ memberTokens ms

end

end Value

/-! ## From text to tokens -/

namespace Lexer

variable {c : Char} {cs ds : List Char} {t : Token} {ts us : List Token} {s : State}

/-- The lexer has nothing but complete tokens behind it, once a mark comes. -/
structure State.Rests (s : State) (done : List Token) : Prop where
  settle : s.settle = some done
  next : ∀ c, isNumberChar c = false → c.isAlpha = false → step s c = start done c

theorem rests_between : State.Rests ⟨.between, ts⟩ ts := ⟨rfl, fun _ _ _ => rfl⟩

/-- The text is read as tokens, between others. -/
def Spells (cs : List Char) (ts : List Token) : Prop :=
  ∀ done, ∃ s, cs.foldlM step ⟨.between, done⟩ = some s ∧ s.Rests (ts.reverse ++ done)

theorem Spells.nil : Spells [] [] := fun _ => ⟨_, rfl, rests_between⟩

/-- The character is a token of its own, which ends the one before it. -/
structure Marks (c : Char) (t : Token) : Prop where
  number : isNumberChar c = false
  word : c.isAlpha = false
  start : ∀ done, start done c = some ⟨.between, t :: done⟩

theorem marks_comma : Marks ',' .comma := ⟨rfl, rfl, fun _ => rfl⟩

theorem marks_colon : Marks ':' .colon := ⟨rfl, rfl, fun _ => rfl⟩

theorem marks_openBracket : Marks '[' .openBracket := ⟨rfl, rfl, fun _ => rfl⟩

theorem marks_closeBracket : Marks ']' .closeBracket := ⟨rfl, rfl, fun _ => rfl⟩

theorem marks_openBrace : Marks '{' .openBrace := ⟨rfl, rfl, fun _ => rfl⟩

theorem marks_closeBrace : Marks '}' .closeBrace := ⟨rfl, rfl, fun _ => rfl⟩

/-- Texts are read one after the other if a mark stands between them. -/
theorem Spells.mark (h : Spells cs ts) (hc : Marks c t) (h' : Spells ds us) :
    Spells (cs ++ c :: ds) (ts ++ t :: us) := by
  intro done
  obtain ⟨s, hs, hrests⟩ := h done
  obtain ⟨s', hs', hrests'⟩ := h' (t :: (ts.reverse ++ done))
  refine ⟨s', ?_, ?_⟩
  · rw [List.foldlM_append, hs, Option.bind_eq_bind, Option.bind_some, List.foldlM_cons,
      hrests.next c hc.number hc.word, hc.start]
    exact hs'
  · rw [List.reverse_append, List.reverse_cons, List.append_assoc, List.append_assoc]
    exact hrests'

/-! ### Words and numbers -/

/-- A word that has been spelled out may rest. -/
theorem rests_word (h : word? cs.reverse = some t) : State.Rests ⟨.inWord cs, ts⟩ (t :: ts) where
  settle := congrArg (Option.map fun t => t :: ts) h
  next c _ hc := by
    simp only [step, hc, Bool.false_eq_true, if_false, State.settle, h, Option.map_some,
      Option.bind_some]

/-- A number that has been spelled out may rest. -/
theorem rests_number {n : Number} (h : Number.ofLiteral? cs.reverse = some n) :
    State.Rests ⟨.inNumber cs, ts⟩ (.number n :: ts) where
  settle := congrArg (Option.map fun m => Token.number m :: ts) h
  next c hc _ := by
    simp only [step, hc, Bool.false_eq_true, if_false, State.settle, h, Option.map_some,
      Option.bind_some]

theorem spells_null : Spells "null".toList [.null] := fun _ => ⟨_, rfl, rests_word rfl⟩

/-- The texts of the two truth values spell them. -/
theorem spells_bool : (b : Bool) → Spells (Value.bool b).chars [.bool b]
  | true => fun _ => ⟨_, rfl, rests_word rfl⟩
  | false => fun _ => ⟨_, rfl, rests_word rfl⟩

/-- Characters of numbers extend the number that has begun. -/
theorem foldlM_inNumber (h : ∀ c ∈ cs, isNumberChar c = true) :
    cs.foldlM step ⟨.inNumber ds, ts⟩ = some ⟨.inNumber (cs.reverse ++ ds), ts⟩ := by
  induction cs generalizing ds with
  | nil => rfl
  | cons c cs ih =>
    rw [List.foldlM_cons]
    simp only [step, h c List.mem_cons_self, if_true, Option.bind_eq_bind, Option.bind_some]
    rw [ih fun d hd => h d (List.mem_cons_of_mem _ hd), List.reverse_cons, List.append_assoc]
    rfl

/-- A digit or a sign begins a number. -/
theorem start_number (h : c.isDigit = true ∨ c = '-') :
    start ts c = some ⟨.inNumber [c], ts⟩ := by
  have hmark : ∀ d : Char, d.isDigit = false → d ≠ '-' → c ≠ d := by
    rintro d hdigit hsign rfl
    rcases h with h | h
    · exact absurd h (by rw [hdigit]; exact Bool.false_ne_true)
    · exact hsign h
  have hnumber : (c.isDigit || decide (c = '-')) = true := by
    rw [Bool.or_eq_true, decide_eq_true_eq]
    exact h
  simp [start, isBlank, hmark ' ' (by decide) (by decide), hmark '\t' (by decide) (by decide),
    hmark '\n' (by decide) (by decide), hmark '\r' (by decide) (by decide),
    hmark '{' (by decide) (by decide), hmark '}' (by decide) (by decide),
    hmark '[' (by decide) (by decide), hmark ']' (by decide) (by decide),
    hmark ':' (by decide) (by decide), hmark ',' (by decide) (by decide),
    hmark '"' (by decide) (by decide), h]

/-- A text that is read as a number is one token. -/
theorem spells_number {n : Number} (h : Number.ofLiteral? cs = some n) : Spells cs [.number n] := by
  intro done
  obtain ⟨hchars, first, tail, rfl, hfirst⟩ := Number.chars_of_ofLiteral? h
  refine ⟨⟨.inNumber (tail.reverse ++ [first]), done⟩, ?_, rests_number ?_⟩
  · rw [List.foldlM_cons]
    simp only [step, start_number hfirst, Option.bind_eq_bind, Option.bind_some]
    exact foldlM_inNumber fun c hc => hchars c (List.mem_cons_of_mem _ hc)
  · rw [List.reverse_append, List.reverse_reverse]
    exact h

/-! ### Strings -/

/-- A hexadecimal digit has its value. -/
theorem hexValue?_hexDigit : ∀ n < 16, hexValue? (hexDigit n) = some n := by decide

/-- A character is read back from how it stands in a string. -/
theorem foldlM_escapeChar :
    (escapeChar c).foldlM step ⟨.inString ds none .none, ts⟩
      = some ⟨.inString (c :: ds) none .none, ts⟩ := by
  unfold escapeChar
  split
  · subst_vars; rfl
  split
  · subst_vars; rfl
  split
  · subst_vars; rfl
  split
  · subst_vars; rfl
  split
  · subst_vars; rfl
  split
  · rename_i h
    obtain rfl : c = Char.ofNat 8 := by rw [← h, Char.ofNat_toNat]
    rfl
  split
  · rename_i h
    obtain rfl : c = Char.ofNat 12 := by rw [← h, Char.ofNat_toNat]
    rfl
  split
  · rename_i hcontrol
    have hhigh := hexValue?_hexDigit (c.toNat / 16) (by omega)
    have hlow := hexValue?_hexDigit (c.toNat % 16) (by omega)
    have hzero : hexValue? '0' = some 0 := rfl
    have hvalue : 16 * (c.toNat / 16) + c.toNat % 16 = c.toNat := by omega
    have hhalf : ¬ (55296 ≤ c.toNat ∧ c.toNat ≤ 56319) := by omega
    have hother : ¬ (56320 ≤ c.toNat ∧ c.toNat ≤ 57343) := by omega
    simp [step, stepString, hhigh, hlow, hzero, hvalue, closeUnit, hhalf, hother]
  · rename_i hquote hbackslash _ _ _ _ _ hcontrol
    simp [step, stepString, hquote, hbackslash, hcontrol]

/-- Whatever the characters are, they are read as themselves once they are escaped. -/
theorem foldlM_escapeChars :
    (cs.flatMap escapeChar).foldlM step ⟨.inString ds none .none, ts⟩
      = some ⟨.inString (cs.reverse ++ ds) none .none, ts⟩ := by
  induction cs generalizing ds with
  | nil => rfl
  | cons c cs ih =>
    rw [List.flatMap_cons, List.foldlM_append, foldlM_escapeChar, Option.bind_eq_bind,
      Option.bind_some, ih, List.reverse_cons, List.append_assoc]
    rfl

/-- A quoted string is one token. -/
theorem spells_quote {k : String} : Spells (quote k) [.string k] := by
  intro done
  refine ⟨⟨.between, .string k :: done⟩, ?_, rests_between⟩
  have hopen : step ⟨.between, done⟩ '"' = some ⟨.inString [] none .none, done⟩ := rfl
  rw [quote, List.cons_append, List.foldlM_cons, hopen, Option.bind_eq_bind, Option.bind_some,
    List.foldlM_append, foldlM_escapeChars, Option.bind_eq_bind, Option.bind_some, List.append_nil,
    List.foldlM_cons]
  simp [step, stepString]

/-! ### Values -/

/-- The rest of an array is read after what stands before it. -/
theorem Spells.items {vs : List Value} (each : ∀ v ∈ vs, Spells v.chars v.tokens)
    (h : Spells cs ts) : Spells (cs ++ Value.itemChars vs) (ts ++ Value.itemTokens vs) := by
  induction vs generalizing cs ts with
  | nil => exact h.mark marks_closeBracket .nil
  | cons v vs ih =>
    have hitem := h.mark marks_comma (each v List.mem_cons_self)
    have hrest := ih (fun w hw => each w (List.mem_cons_of_mem _ hw)) hitem
    rw [Value.itemChars, Value.itemTokens]
    simpa only [List.append_assoc, List.cons_append] using hrest

/-- A key with its value is read after a mark. -/
theorem Spells.member {k : String} {v : Value} (h : Spells cs ts) (hc : Marks c t)
    (hv : Spells v.chars v.tokens) :
    Spells (cs ++ c :: quote k ++ ':' :: v.chars) (ts ++ t :: .string k :: .colon :: v.tokens) := by
  have hkey := (h.mark hc (spells_quote (k := k))).mark marks_colon hv
  simpa only [List.append_assoc, List.cons_append, List.nil_append] using hkey

/-- The rest of an object is read after what stands before it. -/
theorem Spells.members {ms : List (String × Value)} (each : ∀ m ∈ ms, Spells m.2.chars m.2.tokens)
    (h : Spells cs ts) : Spells (cs ++ Value.memberChars ms) (ts ++ Value.memberTokens ms) := by
  induction ms generalizing cs ts with
  | nil => exact h.mark marks_closeBrace .nil
  | cons m ms ih =>
    obtain ⟨k, v⟩ := m
    have hmember := h.member (k := k) marks_comma (each (k, v) List.mem_cons_self)
    have hrest := ih (fun w hw => each w (List.mem_cons_of_mem _ hw)) hmember
    rw [Value.memberChars, Value.memberTokens]
    simpa only [List.append_assoc, List.cons_append] using hrest

/-- The text of a legible value is read as its tokens. -/
theorem spells_chars {d : Nat} {v : Value} (h : Legible d v) : Spells v.chars v.tokens := by
  induction h with
  | null => exact spells_null
  | bool => exact spells_bool _
  | number back => exact spells_number back
  | string => exact spells_quote
  | @array d items each ih =>
    cases items with
    | nil => exact (Spells.nil.mark marks_openBracket .nil).mark marks_closeBracket .nil
    | cons v vs =>
      have hfirst := Spells.nil.mark marks_openBracket (ih v List.mem_cons_self)
      exact hfirst.items fun w hw => ih w (List.mem_cons_of_mem _ hw)
  | @object d members each ih =>
    cases members with
    | nil => exact (Spells.nil.mark marks_openBrace .nil).mark marks_closeBrace .nil
    | cons m ms =>
      obtain ⟨k, v⟩ := m
      have hfirst := Spells.nil.member (k := k) marks_openBrace (ih (k, v) List.mem_cons_self)
      exact hfirst.members fun w hw => ih w (List.mem_cons_of_mem _ hw)

end Lexer

open Lexer in
/-- The tokens of the text of a legible value. -/
theorem tokens?_chars {d : Nat} {v : Value} (h : Legible d v) : tokens? v.chars = some v.tokens := by
  obtain ⟨s, hs, hrests⟩ := spells_chars h []
  unfold tokens?
  rw [State.init, hs, Option.bind_eq_bind, Option.bind_some, hrests.settle, Option.bind_eq_bind,
    Option.bind_some, List.append_nil, List.reverse_reverse]
  rfl

/-! ## From tokens to values -/

namespace Reader

variable {d : Nat} {v : Value} {stack : List Frame}

/-- The tokens of a value do not begin with the end of an array. -/
theorem foldlM_firstItem {s : State} (h : v.tokens.foldlM step ⟨stack, .value⟩ = some s) :
    v.tokens.foldlM step ⟨stack, .firstItem⟩ = some s := by
  rw [← h]
  cases v with
  | array items => cases items <;> rfl
  | object members => cases members <;> rfl
  | _ => rfl

/-- The grammar puts the items of an array together. -/
theorem foldlM_itemTokens {vs : List Value} (done : List Value)
    (each : ∀ v ∈ vs, ∀ stack : List Frame, stack.length + d ≤ maxDepth →
      v.tokens.foldlM step ⟨stack, .value⟩ = some (deliver v stack))
    (hdepth : (Frame.array done :: stack).length + d ≤ maxDepth) :
    (Value.itemTokens vs).foldlM step ⟨.array done :: stack, .afterItem⟩
      = some (deliver (.array (done.reverse ++ vs)) stack) := by
  induction vs generalizing done with
  | nil =>
    rw [List.append_nil]
    rfl
  | cons v vs ih =>
    rw [Value.itemTokens, List.cons_append, List.foldlM_cons]
    show ((v.tokens ++ Value.itemTokens vs).foldlM step ⟨.array done :: stack, .value⟩) = _
    rw [List.foldlM_append, each v List.mem_cons_self _ hdepth, Option.bind_eq_bind, Option.bind_some]
    have hrest := ih (v :: done) (fun w hw => each w (List.mem_cons_of_mem _ hw)) hdepth
    rw [List.reverse_cons, List.append_assoc] at hrest
    exact hrest

/-- The grammar puts the members of an object together. -/
theorem foldlM_memberTokens {ms : List (String × Value)} (done : List (String × Value))
    (each : ∀ m ∈ ms, ∀ stack : List Frame, stack.length + d ≤ maxDepth →
      m.2.tokens.foldlM step ⟨stack, .value⟩ = some (deliver m.2 stack))
    (hdepth : stack.length + 1 + d ≤ maxDepth) :
    (Value.memberTokens ms).foldlM step ⟨stack, .afterMember done⟩
      = some (deliver (.object (done.reverse ++ ms)) stack) := by
  induction ms generalizing done with
  | nil =>
    rw [List.append_nil]
    rfl
  | cons m ms ih =>
    obtain ⟨k, v⟩ := m
    rw [Value.memberTokens, List.cons_append, List.cons_append, List.cons_append]
    show ((v.tokens ++ Value.memberTokens ms).foldlM step ⟨.member done k :: stack, .value⟩) = _
    rw [List.foldlM_append, each (k, v) List.mem_cons_self (.member done k :: stack) hdepth,
      Option.bind_eq_bind, Option.bind_some]
    have hrest := ih ((k, v) :: done) fun w hw => each w (List.mem_cons_of_mem _ hw)
    rw [List.reverse_cons, List.append_assoc] at hrest
    exact hrest

/-- The grammar delivers a value from its tokens, as long as the containers fit on the stack. -/
theorem foldlM_tokens (h : Legible d v) (hdepth : stack.length + d ≤ maxDepth) :
    v.tokens.foldlM step ⟨stack, .value⟩ = some (deliver v stack) := by
  induction h generalizing stack with
  | null => rfl
  | bool => rfl
  | number => rfl
  | string => rfl
  | @array d items each ih =>
    -- there is room for one more level, and then for what the items need
    have hroom : stack.length < maxDepth := by omega
    have hopen : step ⟨stack, .value⟩ .openBracket = some ⟨.array [] :: stack, .firstItem⟩ :=
      if_pos hroom
    cases items with
    | nil =>
      rw [Value.tokens, List.foldlM_cons, hopen]
      rfl
    | cons v vs =>
      have hin : (Frame.array [] :: stack).length + d ≤ maxDepth := by
        rw [List.length_cons]
        omega
      rw [Value.tokens, List.cons_append, List.foldlM_cons, hopen, Option.bind_eq_bind,
        Option.bind_some, List.foldlM_append, foldlM_firstItem (ih v List.mem_cons_self hin),
        Option.bind_eq_bind, Option.bind_some]
      exact foldlM_itemTokens [v]
        (fun w hw stack hstack => ih w (List.mem_cons_of_mem _ hw) hstack) hin
  | @object d members each ih =>
    have hroom : stack.length < maxDepth := by omega
    have hopen : step ⟨stack, .value⟩ .openBrace = some ⟨stack, .firstKey⟩ := if_pos hroom
    cases members with
    | nil =>
      rw [Value.tokens, List.foldlM_cons, hopen]
      rfl
    | cons m ms =>
      obtain ⟨k, v⟩ := m
      have hin : (Frame.member [] k :: stack).length + d ≤ maxDepth := by
        rw [List.length_cons]
        omega
      rw [Value.tokens, List.cons_append, List.cons_append, List.cons_append, List.foldlM_cons, hopen,
        Option.bind_eq_bind, Option.bind_some]
      show ((v.tokens ++ Value.memberTokens ms).foldlM step ⟨.member [] k :: stack, .value⟩) = _
      rw [List.foldlM_append, ih (k, v) List.mem_cons_self hin, Option.bind_eq_bind, Option.bind_some]
      exact foldlM_memberTokens [(k, v)]
        (fun w hw stack hstack => ih w (List.mem_cons_of_mem _ hw) hstack) hin

end Reader

/-! ## There and back -/

variable {v : Value}

/-- A legible value is read from its text. -/
theorem parse?_write (h : Legible maxDepth v) : parse? v.write = some v := by
  unfold parse? ofTokens?
  rw [Value.write, String.toList_ofList, tokens?_chars h, Option.bind_eq_bind, Option.bind_some,
    Reader.State.init, Reader.foldlM_tokens h (Nat.le_of_eq (Nat.zero_add _))]
  rfl

/-- A string is read from its bytes. -/
theorem fromUTF8?_toUTF8 (s : String) : String.fromUTF8? s.toUTF8 = some s := by
  unfold String.fromUTF8?
  split
  · rfl
  · rename_i hinvalid
    exact absurd s.isValidUTF8 hinvalid

/-- A legible value is read from the bytes of its text. -/
theorem parseBytes?_write (h : Legible maxDepth v) : parseBytes? v.write.toUTF8 = some v := by
  unfold parseBytes?
  rw [fromUTF8?_toUTF8]
  exact parse?_write h

end FlightRelay.Json
