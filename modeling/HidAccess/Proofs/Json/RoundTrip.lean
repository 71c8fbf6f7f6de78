import HidAccess.Json.Reader
import HidAccess.Proofs.Json.Lexing

/-! Every value is read back from both of its printed forms. -/

namespace HidAccess.Json
variable {cs gap front : List Char} {ts tokens : List Token} {stack : List Frame}

/-- Induction over a value with the hypothesis for each item and for each entry's value. -/
@[elab_as_elim, induction_eliminator]
theorem Value.induction {P : Value → Prop} (null : P .null) (bool : ∀ b, P (.bool b))
    (number : ∀ n, P (.number n)) (string : ∀ s, P (.string s))
    (array : ∀ items, (∀ v ∈ items, P v) → P (.array items))
    (object : ∀ entries, (∀ e ∈ entries, P e.2) → P (.object entries)) (v : Value) : P v :=
  match v with
  | .null => null
  | .bool b => bool b
  | .number n => number n
  | .string s => string s
  | .array items => array items fun v _ => Value.induction null bool number string array object v
  | .object entries =>
    object entries fun e _ => Value.induction null bool number string array object e.2
termination_by sizeOf v
decreasing_by
  · have hitem := List.sizeOf_lt_of_mem ‹v ∈ items›
    simp only [Value.array.sizeOf_spec]
    omega
  · have hentry := List.sizeOf_lt_of_mem ‹e ∈ entries›
    have hvalue : sizeOf e = 1 + sizeOf e.1 + sizeOf e.2 := rfl
    simp only [Value.object.sizeOf_spec]
    omega

section Layouts

theorem itemTokens_eq (items : List Value) :
    itemTokens items = [Token.comma].intercalate (items.map Value.tokens) := by
  induction items with
  | nil => rfl
  | cons v rest ih =>
    rcases rest with _ | ⟨w, rest⟩
    · simp [itemTokens]
    · simp [itemTokens, ih]

def memberTokens (e : StringText × Value) : List Token := .string e.1 :: .colon :: e.2.tokens

theorem entryTokens_eq (entries : List (StringText × Value)) :
    entryTokens entries = [Token.comma].intercalate (entries.map memberTokens) := by
  induction entries with
  | nil => rfl
  | cons e rest ih =>
    rcases rest with _ | ⟨w, rest⟩
    · simp [entryTokens, memberTokens]
    · simp [entryTokens, memberTokens, ih]

theorem itemChars_eq (depth : Nat) (items : List Value) :
    itemChars depth items =
      [','].intercalate (items.map fun v => breakLine depth ++ v.indentedChars depth) := by
  induction items with
  | nil => rfl
  | cons v rest ih =>
    rcases rest with _ | ⟨w, rest⟩
    · simp [itemChars]
    · simp [itemChars, ih]

theorem entryChars_eq (depth : Nat) (entries : List (StringText × Value)) :
    entryChars depth entries = [','].intercalate (entries.map fun e =>
      breakLine depth ++ (stringChars e.1 ++ ':' :: ' ' :: e.2.indentedChars depth)) := by
  induction entries with
  | nil => rfl
  | cons e rest ih =>
    rcases rest with _ | ⟨w, rest⟩
    · simp [entryChars]
    · simp [entryChars, ih]

theorem flatMap_intercalate {α : Type} (g : α → List Token) (as : List α) :
    ([Token.comma].intercalate (as.map g)).flatMap Token.chars =
      [','].intercalate (as.map fun a => (g a).flatMap Token.chars) := by
  induction as with
  | nil => rfl
  | cons a rest ih =>
    rcases rest with _ | ⟨b, rest⟩
    · simp
    · simp only [List.map_cons, List.intercalate_cons_cons, List.flatMap_append] at ih ⊢
      rw [ih]
      rfl

end Layouts

section Spelling

/-- A text that adds its tokens to what the text behind it spells. -/
def Printed (front : List Char) (tokens : List Token) : Prop :=
  ∀ cs ts, Stops cs → Spells cs ts → Spells (front ++ cs) (tokens ++ ts)

def Blanks (gap : List Char) : Prop := ∀ c ∈ gap, isBlank c = true

theorem blanks_nil : Blanks [] := by
  intro c hc
  exact absurd hc (List.not_mem_nil)

theorem blanks_space : Blanks [' '] := by
  intro c hc
  rw [List.mem_singleton.mp hc]
  rfl

theorem blanks_breakLine (depth : Nat) : Blanks (breakLine depth) := by
  intro c hc
  rcases List.mem_cons.mp hc with rfl | hc
  · rfl
  · rw [List.eq_of_mem_replicate hc]
    rfl

theorem stops_cons {c : Char} (hc : c.isDigit = false ∧ c ∉ ['.', 'e', 'E']) :
    Stops (c :: cs) := by
  intro d hd
  obtain rfl : c = d := by simpa using hd
  exact hc

theorem Spells.spaced (hgap : Blanks gap) (h : Spells cs ts) : Spells (gap ++ cs) ts := by
  induction gap with
  | nil => exact h
  | cons c gap ih =>
    exact .blank (hgap c List.mem_cons_self) (ih fun d hd => hgap d (List.mem_cons_of_mem c hd))

theorem stops_spaced (hgap : Blanks gap) (h : Stops cs) : Stops (gap ++ cs) := by
  rcases gap with _ | ⟨c, gap⟩
  · exact h
  · have hblank := hgap c List.mem_cons_self
    simp only [isBlank, Bool.or_eq_true, beq_iff_eq] at hblank
    apply stops_cons
    rcases hblank with ((rfl | rfl) | rfl) | rfl <;> decide

theorem printed_token (t : Token) : Printed t.chars [t] := by
  intro cs ts hstop h
  exact .token (fun _ _ => hstop) h

theorem Printed.spaced (hgap : Blanks gap) (h : Printed front tokens) :
    Printed (gap ++ front) tokens := by
  intro cs ts hstop hcs
  rw [List.append_assoc]
  exact (h cs ts hstop hcs).spaced hgap

theorem printed_intercalate {α : Type} {f : α → List Char} {g : α → List Token} {as : List α}
    (h : ∀ a ∈ as, Printed (f a) (g a)) :
    Printed ([','].intercalate (as.map f)) ([Token.comma].intercalate (as.map g)) := by
  intro cs ts hstop hcs
  induction as with
  | nil => exact hcs
  | cons a rest ih =>
    have ha := h a List.mem_cons_self
    rcases rest with _ | ⟨b, rest⟩
    · simpa using ha cs ts hstop hcs
    · have hrest := ih fun b hb => h b (List.mem_cons_of_mem a hb)
      have hcomma := Spells.token (t := .comma) (fun n hn => nomatch hn) hrest
      have hall := ha _ _ (stops_cons (by decide)) hcomma
      simpa [List.append_assoc, Token.chars] using hall

theorem Printed.enclosed (opening closing : Token) (hopening : ∀ n, opening ≠ .number n)
    (hclosing : ∀ n, closing ≠ .number n) (hend : ∀ cs, Stops (closing.chars ++ cs))
    (hgap : Blanks gap) (h : Printed front tokens) :
    Printed (opening.chars ++ (front ++ (gap ++ closing.chars)))
      (opening :: (tokens ++ [closing])) := by
  intro cs ts hstop hcs
  have hclose := (Spells.token (fun n hn => absurd hn (hclosing n)) hcs).spaced hgap
  have hbody := h _ _ (stops_spaced hgap (hend cs)) hclose
  have hall := Spells.token (fun n hn => absurd hn (hopening n)) hbody
  simpa [List.append_assoc] using hall

theorem printed_nil : Printed [] [] := fun _ _ _ hcs => hcs

theorem printed_array (hgap : Blanks gap) (h : Printed front tokens) :
    Printed ('[' :: (front ++ (gap ++ [']']))) (.openArray :: (tokens ++ [.closeArray])) :=
  h.enclosed .openArray .closeArray (fun _ hn => nomatch hn) (fun _ hn => nomatch hn)
    (fun _ => stops_cons (by decide)) hgap

theorem printed_object (hgap : Blanks gap) (h : Printed front tokens) :
    Printed ('{' :: (front ++ (gap ++ ['}']))) (.openObject :: (tokens ++ [.closeObject])) :=
  h.enclosed .openObject .closeObject (fun _ hn => nomatch hn) (fun _ hn => nomatch hn)
    (fun _ => stops_cons (by decide)) hgap

theorem printed_member {k : StringText} (hgap : Blanks gap) (h : Printed front tokens) :
    Printed (stringChars k ++ ':' :: (gap ++ front)) (.string k :: .colon :: tokens) := by
  intro cs ts hstop hcs
  have hvalue := (h.spaced hgap) cs ts hstop hcs
  have hcolon := Spells.token (t := .colon) (fun n hn => nomatch hn) hvalue
  have hall := Spells.token (t := .string k) (fun n hn => nomatch hn) hcolon
  simpa [List.append_assoc, Token.chars] using hall

theorem Value.printed_compact (v : Value) : Printed (v.tokens.flatMap Token.chars) v.tokens := by
  induction v with
  | array items ih =>
    have hitems := printed_intercalate ih
    simpa [Value.tokens, itemTokens_eq, flatMap_intercalate, Token.chars] using
      printed_array blanks_nil hitems
  | object entries ih =>
    have hentries := printed_intercalate (f := fun e => (memberTokens e).flatMap Token.chars)
      (g := memberTokens) fun e he => by
        simpa [memberTokens, Token.chars] using printed_member blanks_nil (ih e he)
    simpa [Value.tokens, entryTokens_eq, flatMap_intercalate, Token.chars] using
      printed_object blanks_nil hentries
  | _ => simpa [Value.tokens] using printed_token _

theorem Value.printed_indented (v : Value) (depth : Nat) :
    Printed (v.indentedChars depth) v.tokens := by
  induction v generalizing depth with
  | array items ih =>
    have hitems := printed_intercalate fun v hv =>
      (ih v hv (depth + 1)).spaced (blanks_breakLine (depth + 1))
    rcases items with _ | ⟨v, items⟩
    · exact printed_array blanks_nil printed_nil
    · simpa [Value.indentedChars, Value.tokens, itemTokens_eq, itemChars_eq] using
        printed_array (blanks_breakLine depth) hitems
  | object entries ih =>
    have hentries := printed_intercalate (g := memberTokens) fun e he =>
      (printed_member (k := e.1) blanks_space (ih e he (depth + 1))).spaced
        (blanks_breakLine (depth + 1))
    rcases entries with _ | ⟨e, entries⟩
    · exact printed_object blanks_nil printed_nil
    · simpa [Value.indentedChars, Value.tokens, entryTokens_eq, entryChars_eq] using
        printed_object (blanks_breakLine depth) hentries
  | null => exact printed_token .null
  | bool b => exact printed_token (.bool b)
  | number n => exact printed_token (.number n)
  | string s => exact printed_token (.string s)

theorem tokens?_of_printed (h : Printed cs ts) : tokens? (String.ofList cs) = some ts := by
  have hall := h [] [] (by simp [Stops]) .nil
  rw [List.append_nil, List.append_nil] at hall
  exact tokens?_of_spells hall

end Spelling

section Reading

theorem run_cons (state : ReadState) (t : Token) (ts : List Token) :
    run state (t :: ts) = (step state t).bind fun state => run state ts := by
  rw [run]
  cases step state t <;> rfl

theorem deliver_array (v : Value) (items : List Value) :
    deliver v (.array items :: stack) = some (.next (.array (v :: items) :: stack)) := rfl

theorem deliver_member (v : Value) (entries : List (StringText × Value)) (key : StringText) :
    deliver v (.member entries key :: stack) =
      some (.next (.object ((key, v) :: entries) :: stack)) := rfl

/-- A value whose tokens make the reader deliver it, on any stack and before any other tokens. -/
def Reads (v : Value) : Prop := ∀ stack ts,
  run (.value stack) (v.tokens ++ ts) = (deliver v stack).bind fun state => run state ts

theorem Value.tokens_cons (v : Value) : ∃ t ts, v.tokens = t :: ts ∧ t ≠ .closeArray := by
  cases v
  all_goals exact ⟨_, _, rfl, by simp⟩

theorem run_firstItem (v : Value) (ts : List Token) :
    run (.firstItem stack) (v.tokens ++ ts) = run (.value stack) (v.tokens ++ ts) := by
  obtain ⟨t, front, hfront, ht⟩ := v.tokens_cons
  simp only [hfront, List.cons_append, run_cons, step, ht, if_false]

theorem itemTokens_cons (v : Value) (rest : List Value) :
    ∃ tail, itemTokens (v :: rest) = v.tokens ++ tail := by
  rcases rest with _ | ⟨w, rest⟩
  · exact ⟨[], (List.append_nil _).symm⟩
  · exact ⟨.comma :: itemTokens (w :: rest), rfl⟩

theorem run_firstKey (e : StringText × Value) (rest : List (StringText × Value)) :
    run (.firstKey stack) (entryTokens (e :: rest) ++ ts) =
      run (.key stack) (entryTokens (e :: rest) ++ ts) := by
  rcases rest with _ | ⟨w, rest⟩
  · simp [entryTokens, run_cons, step]
  · simp [entryTokens, run_cons, step]

theorem run_items (stack : List Frame) (ts : List Token) (v : Value) (rest done : List Value)
    (hv : Reads v) (hrest : ∀ w ∈ rest, Reads w) :
    run (.value (.array done :: stack)) (itemTokens (v :: rest) ++ .closeArray :: ts) =
      (deliver (.array (done.reverse ++ v :: rest)) stack).bind fun state => run state ts := by
  induction rest generalizing v done with
  | nil =>
    rw [itemTokens, hv]
    simp [deliver_array, run_cons, step, closeFrame]
  | cons w rest ih =>
    have hw := ih w (v :: done) (hrest w List.mem_cons_self)
      fun x hx => hrest x (List.mem_cons_of_mem w hx)
    have htokens : itemTokens (v :: w :: rest) = v.tokens ++ .comma :: itemTokens (w :: rest) := rfl
    rw [htokens, List.append_assoc, hv]
    simp [deliver_array, run_cons, step, hw]

theorem run_entries (stack : List Frame) (ts : List Token) (e : StringText × Value)
    (rest done : List (StringText × Value)) (he : Reads e.2) (hrest : ∀ w ∈ rest, Reads w.2) :
    run (.key (.object done :: stack)) (entryTokens (e :: rest) ++ .closeObject :: ts) =
      (deliver (.object (done.reverse ++ e :: rest)) stack).bind fun state => run state ts := by
  induction rest generalizing e done with
  | nil =>
    have hvalue := he (.member done e.1 :: stack) (.closeObject :: ts)
    simp [entryTokens, run_cons, step, takeKey, hvalue, deliver_member, closeFrame]
  | cons w rest ih =>
    have hw := ih w (e :: done) (hrest w List.mem_cons_self)
      fun x hx => hrest x (List.mem_cons_of_mem w hx)
    have hvalue := he (.member done e.1 :: stack)
      (.comma :: (entryTokens (w :: rest) ++ .closeObject :: ts))
    simp [entryTokens, run_cons, step, takeKey, hvalue, deliver_member, hw]

theorem Value.reads (v : Value) : Reads v := by
  induction v with
  | array items ih =>
    intro stack ts
    rcases items with _ | ⟨v, rest⟩
    · simp [Value.tokens, itemTokens, run_cons, step, startValue, closeFrame]
    · have hitems := run_items stack ts v rest [] (ih v List.mem_cons_self) fun w hw =>
        ih w (List.mem_cons_of_mem v hw)
      obtain ⟨tail, htail⟩ := itemTokens_cons v rest
      rw [htail, List.append_assoc, ← run_firstItem, ← List.append_assoc, ← htail] at hitems
      simp [Value.tokens, run_cons, step, startValue, hitems]
  | object entries ih =>
    intro stack ts
    rcases entries with _ | ⟨e, rest⟩
    · simp [Value.tokens, entryTokens, run_cons, step, startValue, closeFrame]
    · have hentries := run_entries stack ts e rest [] (ih e List.mem_cons_self) fun w hw =>
        ih w (List.mem_cons_of_mem e hw)
      rw [← run_firstKey] at hentries
      simp [Value.tokens, run_cons, step, startValue, hentries]
  | _ => intro stack ts; simp [Value.tokens, run_cons, step, startValue]

theorem read?_of_printed {v : Value} (h : Printed cs v.tokens) :
    read? (String.ofList cs) = some v := by
  have hrun := v.reads [] []
  rw [List.append_nil] at hrun
  simp [read?, tokens?_of_printed h, ofTokens?, hrun, deliver, run]

theorem read?_compact (v : Value) : read? v.compact = some v := read?_of_printed v.printed_compact

theorem read?_indented (v : Value) : read? v.indented = some v :=
  read?_of_printed (v.printed_indented 0)

end Reading

end HidAccess.Json
