import Muster.Json.Decoder
import Muster.Proofs.Json.Lexing
import Muster.Proofs.Text.Utf8

/-! # Reading values that were written

A value without doubles that was written is read as the draft that spells it out. The text is read into the tokens of
the value first (`reads_value`), and the tokens into its draft (`run_value`); each goes along the parts of the value. -/

namespace Muster.Json

/-- Tokens joined with a comma between any two. -/
def sepTokens : List (List Token) → List Token
  | [] => []
  | [t] => t
  | t :: r => t ++ .comma :: sepTokens r

mutual

/-- The value has no doubles. -/
def Value.isWhole : Value → Bool
  | .number (.double _ _) => false
  | .array items => areWhole items
  | .object fields => haveWhole fields
  | _ => true

/-- The items have no doubles. -/
def Value.areWhole : List Value → Bool
  | [] => true
  | v :: r => v.isWhole && areWhole r

/-- The fields have no doubles. -/
def Value.haveWhole : List (String × Value) → Bool
  | [] => true
  | (_, v) :: r => v.isWhole && haveWhole r

end

mutual

/-- The tokens of the text of a value. -/
def Value.tokens : Value → List Token
  | .null => [.null]
  | .bool b => [.bool b]
  | .number n => [.number (some n)]
  | .string s => [.string (some s)]
  | .array items => .openArray :: (sepTokens (tokensItems items) ++ [.closeArray])
  | .object fields => .openObject :: (sepTokens (tokensFields fields) ++ [.closeObject])

/-- The tokens of the items of an array. -/
def Value.tokensItems : List Value → List (List Token)
  | [] => []
  | v :: r => v.tokens :: tokensItems r

/-- The tokens of the fields of an object. -/
def Value.tokensFields : List (String × Value) → List (List Token)
  | [] => []
  | (k, v) :: r => (.string (some k) :: .colon :: v.tokens) :: tokensFields r

end

/-! ### Tokens -/

/-- Tokens are read off the beginning of a text, each from at least one character, and a rest is left. -/
structure Reads (ts : List Token) (s rest : List Char) : Prop where
  length : ts.length + rest.length ≤ s.length
  tokens : ∀ fuel, tokensFrom (ts.length + fuel) s = ts ++ tokensFrom fuel rest

variable {s mid rest : List Char} {ts us : List Token} {t : Token} {c : Char}

theorem Reads.append (h : Reads ts s mid) (k : Reads us mid rest) : Reads (ts ++ us) s rest where
  length := by
    have := h.length
    have := k.length
    rw [List.length_append]
    omega
  tokens fuel := by
    rw [List.length_append, Nat.add_assoc, h.tokens, k.tokens, List.append_assoc]

theorem Reads.one (hspace : isSpace c = false) (hlength : rest.length ≤ s.length)
    (h : readToken c s = some (t, rest)) : Reads [t] (c :: s) rest where
  length := by
    show 1 + rest.length ≤ s.length + 1
    omega
  tokens fuel := by
    rw [List.length_singleton, Nat.add_comm, tokensFrom, hspace, h]
    rfl

theorem Reads.cons (hspace : isSpace c = false) (h : readToken c s = some (t, s)) (k : Reads ts s rest) :
    Reads (t :: ts) (c :: s) rest :=
  (Reads.one hspace (Nat.le_refl _) h).append k

theorem reads_string (s : String) (rest : List Char) : Reads [.string (some s)] (printString s ++ rest) rest := by
  have hprint : printString s ++ rest = '"' :: (s.toList.flatMap escapeChar ++ '"' :: rest) := by
    simp [printString]
  rw [hprint]
  refine Reads.one (by decide) ?_ (readToken_printString s rest)
  rw [List.length_append, List.length_cons]
  omega

theorem readToken_number (h : c = '-' ∨ c.isDigit = true) (s : List Char) :
    readToken c s = (readNumber (c :: s)).map fun (n, r) => (.number n, r) := by
  unfold readToken
  split <;> first
    | exact absurd h (by decide)
    | exact if_pos (by simpa using h)

theorem reads_whole (w : Whole) (hrest : Stops rest) :
    Reads [.number (some (.whole w))] (printInt w.val ++ rest) rest := by
  have hspace : ∀ c : Char, c = '-' ∨ c.isDigit = true → isSpace c = false := by
    intro c hc
    unfold isSpace
    simp only [Bool.or_eq_false_iff, decide_eq_false_iff_not]
    refine ⟨⟨⟨?_, ?_⟩, ?_⟩, ?_⟩ <;> rintro rfl <;> exact absurd hc (by decide)
  cases hw : w.val with
  | ofNat n =>
    show Reads _ (printNat n ++ rest) rest
    have hread := readNumber_printNat n hrest w hw
    cases hn : printNat n with
    | nil => exact absurd hn Nat.toDigits_ne_nil
    | cons c r =>
      have hc : c = '-' ∨ c.isDigit = true := Or.inr (isDigit_printNat (hn ▸ List.mem_cons_self))
      have hread : readNumber (c :: (r ++ rest)) = some (some (.whole w), rest) := by
        rw [hn] at hread
        exact hread
      show Reads _ (c :: (r ++ rest)) rest
      refine Reads.one (hspace c hc) ?_ ((readToken_number hc _).trans ?_)
      · rw [List.length_append]
        omega
      · rw [hread]
        rfl
  | negSucc n =>
    show Reads _ ('-' :: (printNat (n + 1) ++ rest)) rest
    refine Reads.one (hspace '-' (Or.inl rfl)) ?_ ((readToken_number (Or.inl rfl) _).trans ?_)
    · rw [List.length_append]
      omega
    · rw [readNumber_negative n hrest w hw]
      rfl

mutual

/-- The text of a value is read into its tokens. -/
theorem reads_value : ∀ (v : Value), v.isWhole = true → ∀ rest, Stops rest → Reads v.tokens (v.print ++ rest) rest
  | .null, _, rest, _ => Reads.one (by decide) (Nat.le_add_right rest.length 3) rfl
  | .bool true, _, rest, _ => Reads.one (by decide) (Nat.le_add_right rest.length 3) rfl
  | .bool false, _, rest, _ => Reads.one (by decide) (Nat.le_add_right rest.length 4) rfl
  | .number (.whole w), _, _, hrest => reads_whole w hrest
  | .string s, _, rest, _ => reads_string s rest
  | .array items, h, rest, _ => by
    show Reads (.openArray :: (sepTokens (Value.tokensItems items) ++ [.closeArray]))
      ('[' :: ((sepBy [','] (Value.printItems items) ++ [']']) ++ rest)) rest
    rw [List.append_assoc]
    exact Reads.cons (by decide) rfl (reads_items items h rest)
  | .object fields, h, rest, _ => by
    show Reads (.openObject :: (sepTokens (Value.tokensFields fields) ++ [.closeObject]))
      ('{' :: ((sepBy [','] (Value.printFields fields) ++ ['}']) ++ rest)) rest
    rw [List.append_assoc]
    exact Reads.cons (by decide) rfl (reads_fields fields h rest)

theorem reads_items : ∀ (items : List Value), Value.areWhole items = true → ∀ rest,
    Reads (sepTokens (Value.tokensItems items) ++ [.closeArray])
      (sepBy [','] (Value.printItems items) ++ ']' :: rest) rest
  | [], _, _ => Reads.one (by decide) (Nat.le_refl _) rfl
  | [v], h, rest => by
    have hv : v.isWhole = true := (Bool.and_eq_true_iff.mp h).1
    exact (reads_value v hv (']' :: rest) (.cons (Or.inr (Or.inl rfl)))).append
      (Reads.one (by decide) (Nat.le_refl _) rfl)
  | v :: w :: r, h, rest => by
    obtain ⟨hv, hr⟩ := Bool.and_eq_true_iff.mp h
    show Reads (v.tokens ++ .comma :: sepTokens (Value.tokensItems (w :: r)) ++ [.closeArray])
      (v.print ++ [','] ++ sepBy [','] (Value.printItems (w :: r)) ++ ']' :: rest) rest
    simp only [List.append_assoc, List.cons_append, List.nil_append]
    exact (reads_value v hv _ (.cons (Or.inl rfl))).append (Reads.cons (by decide) rfl (reads_items (w :: r) hr rest))

theorem reads_fields : ∀ (fields : List (String × Value)), Value.haveWhole fields = true → ∀ rest,
    Reads (sepTokens (Value.tokensFields fields) ++ [.closeObject])
      (sepBy [','] (Value.printFields fields) ++ '}' :: rest) rest
  | [], _, _ => Reads.one (by decide) (Nat.le_refl _) rfl
  | [(k, v)], h, rest => by
    have hv : v.isWhole = true := (Bool.and_eq_true_iff.mp h).1
    show Reads ([.string (some k)] ++ .colon :: v.tokens ++ [.closeObject])
      (printString k ++ ':' :: v.print ++ '}' :: rest) rest
    simp only [List.append_assoc, List.cons_append]
    have value := (reads_value v hv ('}' :: rest) (.cons (Or.inr (Or.inr rfl)))).append
      (Reads.one (by decide) (Nat.le_refl _) rfl)
    exact (reads_string k _).append (Reads.cons (by decide) rfl value)
  | (k, v) :: (l, w) :: r, h, rest => by
    obtain ⟨hv, hr⟩ := Bool.and_eq_true_iff.mp h
    show Reads ([.string (some k)] ++ .colon :: v.tokens ++ .comma :: sepTokens (Value.tokensFields ((l, w) :: r)) ++
        [.closeObject])
      (printString k ++ ':' :: v.print ++ [','] ++ sepBy [','] (Value.printFields ((l, w) :: r)) ++ '}' :: rest) rest
    simp only [List.append_assoc, List.cons_append, List.nil_append]
    exact (reads_string k _).append (Reads.cons (by decide) rfl ((reads_value v hv _ (.cons (Or.inl rfl))).append
      (Reads.cons (by decide) rfl (reads_fields ((l, w) :: r) hr rest))))

end

/-! ### Drafts -/

namespace Reading

variable {frames : List Frame} {e : Expect}

/-- A token that may stand is taken. -/
theorem run_cons {r r' : Reading} (h : r.step t = some r') (ts : List Token) : r.run (t :: ts) = r'.run ts := by
  rw [run, h]

/-- A value may stand where one is asked for, or an item. -/
def Awaits (e : Expect) : Prop := e = .value ∨ e = .firstItem

/-- A key may stand. -/
def AwaitsKey (e : Expect) : Prop := e = .key ∨ e = .firstKey

theorem step_openArray (h : Awaits e) (frames : List Frame) :
    step ⟨frames, e, .cut⟩ .openArray = some ⟨.array [] :: frames, .firstItem, .cut⟩ := by
  rcases h with rfl | rfl <;> rfl

theorem step_openObject (h : Awaits e) (frames : List Frame) :
    step ⟨frames, e, .cut⟩ .openObject = some ⟨.object [] none :: frames, .firstKey, .cut⟩ := by
  rcases h with rfl | rfl <;> rfl

theorem step_key (h : AwaitsKey e) (fields : List (Option String × Draft)) (key : Option (Option String))
    (k : Option String) (frames : List Frame) :
    step ⟨.object fields key :: frames, e, .cut⟩ (.string k) =
      some ⟨.object fields (some k) :: frames, .colon, .cut⟩ := by
  rcases h with rfl | rfl <;> rfl

mutual

/-- The tokens of a value are read into its draft. -/
theorem run_value : ∀ (v : Value) (frames : List Frame) (e : Expect) (ts : List Token), Awaits e →
    run ⟨frames, e, .cut⟩ (v.tokens ++ ts) = run (put v.draft frames) ts
  | .null, _, _, _, h => run_cons (by rcases h with rfl | rfl <;> rfl) _
  | .bool _, _, _, _, h => run_cons (by rcases h with rfl | rfl <;> rfl) _
  | .number _, _, _, _, h => run_cons (by rcases h with rfl | rfl <;> rfl) _
  | .string _, _, _, _, h => run_cons (by rcases h with rfl | rfl <;> rfl) _
  | .array [], frames, _, _, h => (run_cons (step_openArray h frames) _).trans (run_cons rfl _)
  | .array (v :: r), frames, _, ts, h => by
    have hassoc := List.append_assoc (sepTokens (Value.tokensItems (v :: r))) [.closeArray] ts
    exact (run_cons (step_openArray h frames) _).trans
      ((congrArg _ hassoc).trans (run_items (v :: r) [] frames _ ts (Or.inr rfl) (List.cons_ne_nil v r)))
  | .object [], frames, _, _, h => (run_cons (step_openObject h frames) _).trans (run_cons rfl _)
  | .object (f :: r), frames, _, ts, h => by
    have hassoc := List.append_assoc (sepTokens (Value.tokensFields (f :: r))) [.closeObject] ts
    exact (run_cons (step_openObject h frames) _).trans
      ((congrArg _ hassoc).trans (run_fields (f :: r) [] none frames _ ts (Or.inr rfl) (List.cons_ne_nil f r)))

theorem run_items : ∀ (items : List Value) (done : List Draft) (frames : List Frame) (e : Expect) (ts : List Token),
    Awaits e → items ≠ [] →
      run ⟨.array done :: frames, e, .cut⟩ (sepTokens (Value.tokensItems items) ++ ([.closeArray] ++ ts)) =
        run (put (.array (done.reverse ++ Value.draftItems items)) frames) ts
  | [], _, _, _, _, _, hne => absurd rfl hne
  | [v], done, frames, e, ts, h, _ => by
    show run _ (v.tokens ++ .closeArray :: ts) = run (put (.array (done.reverse ++ [v.draft])) frames) ts
    rw [run_value v _ e _ h, ← List.reverse_cons]
    exact run_cons rfl ts
  | v :: w :: r, done, frames, e, ts, h, _ => by
    show run _ (v.tokens ++ .comma :: sepTokens (Value.tokensItems (w :: r)) ++ ([.closeArray] ++ ts)) =
      run (put (.array (done.reverse ++ ([v.draft] ++ Value.draftItems (w :: r)))) frames) ts
    rw [List.append_assoc, run_value v _ e _ h, ← List.append_assoc done.reverse, ← List.reverse_cons]
    exact (run_cons rfl _).trans
      (run_items (w :: r) (v.draft :: done) frames .value ts (Or.inl rfl) (List.cons_ne_nil w r))

theorem run_fields : ∀ (fields : List (String × Value)) (done : List (Option String × Draft))
    (key : Option (Option String)) (frames : List Frame) (e : Expect) (ts : List Token), AwaitsKey e → fields ≠ [] →
      run ⟨.object done key :: frames, e, .cut⟩ (sepTokens (Value.tokensFields fields) ++ ([.closeObject] ++ ts)) =
        run (put (.object (done.reverse ++ Value.draftFields fields)) frames) ts
  | [], _, _, _, _, _, _, hne => absurd rfl hne
  | [(k, v)], done, key, frames, e, ts, h, _ => by
    show run _ (.string (some k) :: .colon :: (v.tokens ++ .closeObject :: ts)) =
      run (put (.object (done.reverse ++ [(some k, v.draft)])) frames) ts
    rw [run_cons (step_key h done key (some k) frames), run_cons rfl, run_value v _ .value _ (Or.inl rfl),
      ← List.reverse_cons]
    exact run_cons rfl ts
  | (k, v) :: g :: r, done, key, frames, e, ts, h, _ => by
    show run _ (.string (some k) :: .colon ::
        (v.tokens ++ .comma :: sepTokens (Value.tokensFields (g :: r)) ++ ([.closeObject] ++ ts))) =
      run (put (.object (done.reverse ++ ([(some k, v.draft)] ++ Value.draftFields (g :: r)))) frames) ts
    rw [run_cons (step_key h done key (some k) frames), run_cons rfl, List.append_assoc,
      run_value v _ .value _ (Or.inl rfl), ← List.append_assoc done.reverse, ← List.reverse_cons]
    exact (run_cons rfl _).trans
      (run_fields (g :: r) ((some k, v.draft) :: done) none frames .key ts (Or.inl rfl) (List.cons_ne_nil g r))

end

end Reading

/-- A value without doubles that was written is read as its draft, and nothing is left over. -/
theorem readDraft_print {v : Value} (h : v.isWhole = true) : readDraft v.print = (v.draft, false) := by
  have reads := reads_value v h [] .nil
  rw [List.append_nil] at reads
  have htokens : tokens v.print = v.tokens := by
    have hlength : v.tokens.length + (v.print.length - v.tokens.length) = v.print.length := by
      have := reads.length
      rw [List.length_nil] at this
      omega
    have hend : ∀ fuel, tokensFrom fuel [] = [] := fun fuel => by cases fuel <;> rfl
    rw [tokens, ← hlength, reads.tokens, hend, List.append_nil]
  rw [readDraft, htokens, ← List.append_nil v.tokens]
  exact Reading.run_value v [] .value [] (Or.inl rfl)

/-- What is read from the text of a value is what is read from its draft. -/
theorem decode_text {α : Type} (read : Decoder α) {v : Value} (h : v.isWhole = true) :
    decode read v.text = read maxDepth v.draft := by
  unfold decode Value.text
  rw [String.toList_ofList, readDraft_print h]
  dsimp only
  cases read maxDepth v.draft <;> rfl

theorem mend_map_some (place : StringPlace) (s : List Char) : mend place (s.map some) = s := by
  induction s generalizing place with
  | nil => cases place <;> rfl
  | cons c s ih => cases place <;> exact congrArg (c :: ·) (ih _)

/-- What is read from the octets of a text is what is read from the text. -/
theorem decodeOctets_utf8 {α : Type} (read : Decoder α) (s : List Char) :
    decodeOctets read (Text.utf8 s) = decode read (String.ofList s) := by
  rw [decodeOctets, Text.pieces_utf8, mend_map_some]

end Muster.Json
