import HidAccess.CommandLine
import HidAccess.Proofs.Text.Split

/-! An accepted command line as a list of options. Each option takes one word or two: its value stands behind
an equals sign or is the next word, and a flag has no value. The words of a level that is read to its end are
the words of such a list, in the same order, followed by nothing but two dashes or by the command. -/

namespace HidAccess

theorem exists_of_map_eq_ok {ε α β : Type} {x : Except ε α} {f : α → β} {b : β} (h : x.map f = .ok b) :
    ∃ a, x = .ok a ∧ f a = b := by
  cases x with
  | error e => cases h
  | ok a => exact ⟨a, rfl, Except.ok.inj h⟩

theorem exists_of_bind_eq_ok {ε α β : Type} {x : Except ε α} {f : α → Except ε β} {b : β}
    (h : x.bind f = .ok b) : ∃ a, x = .ok a ∧ f a = .ok b := by
  cases x with
  | error e => cases h
  | ok a => exact ⟨a, rfl, h⟩

namespace Word
variable {s name value text : String} {cs : List Char}

theorem toList_eq_of_ofLong : ofLong cs = .long name (some value) →
    cs = name.toList ++ '=' :: value.toList := by
  unfold ofLong
  split
  · intro h
    cases h
  · next before after hsplit =>
    intro h
    injection h with hname hvalue
    injection hvalue with hvalue
    subst hname hvalue
    simpa using (Text.splitFirst?_eq_some_iff.mp hsplit).1
  · intro h
    cases h

theorem toList_eq_of_ofLong_bare : ofLong cs = .long name none → cs = name.toList := by
  unfold ofLong
  split
  · intro h
    cases h
  · intro h
    cases h
  · intro h
    injection h with hname
    simp [← hname]

theorem eq_nil_of_ofLong (h : ofLong cs = .separator) : cs = [] := by
  unfold ofLong at h
  split at h
  · rfl
  · cases h
  · cases h

theorem ofLong_ne_plain : ofLong cs ≠ .plain text := by
  unfold ofLong
  split <;> simp

theorem ofString_cases (s : String) :
    (∃ cs, s.toList = '-' :: '-' :: cs ∧ ofString s = ofLong cs) ∨
    (∃ letter, ofString s = .short letter) ∨ ofString s = .plain s := by
  unfold ofString
  split
  · next cs heq => exact .inl ⟨cs, heq, rfl⟩
  · exact .inr (.inl ⟨_, rfl⟩)
  · exact .inr (.inr rfl)

theorem ofString_eq_joined (h : ofString s = .long name (some value)) : s = "--" ++ name ++ "=" ++ value := by
  obtain ⟨cs, hs, heq⟩ | ⟨letter, heq⟩ | heq := ofString_cases s <;> rw [heq] at h
  · apply String.toList_inj.mp
    simp [hs, toList_eq_of_ofLong h]
  · cases h
  · cases h

theorem ofString_eq_bare (h : ofString s = .long name none) : s = "--" ++ name := by
  obtain ⟨cs, hs, heq⟩ | ⟨letter, heq⟩ | heq := ofString_cases s <;> rw [heq] at h
  · apply String.toList_inj.mp
    simp [hs, toList_eq_of_ofLong_bare h]
  · cases h
  · cases h

theorem ofString_eq_separator (h : ofString s = .separator) : s = "--" := by
  obtain ⟨cs, hs, heq⟩ | ⟨letter, heq⟩ | heq := ofString_cases s <;> rw [heq] at h
  · apply String.toList_inj.mp
    simp [hs, eq_nil_of_ofLong h]
  · cases h
  · cases h

theorem ofString_eq_plain (h : ofString s = .plain text) : s = text := by
  obtain ⟨cs, hs, heq⟩ | ⟨letter, heq⟩ | heq := ofString_cases s <;> rw [heq] at h
  · exact absurd h ofLong_ne_plain
  · cases h
  · injection h

end Word

inductive Item where
  | joined (o : ValueOption) (text : String)
  | apart (o : ValueOption) (text : String)
  | raised (f : Flag)
  deriving DecidableEq, Repr

namespace Item

def words : Item → List String
  | joined o text => ["--" ++ o.spelling ++ "=" ++ text]
  | apart o text => ["--" ++ o.spelling, text]
  | raised f => ["--" ++ f.spelling]

/-- The level knows the option, and a value that is a word of its own is no option itself. -/
def Fits (level : Level) : Item → Prop
  | joined o _ => o ∈ ValueOption.known level
  | apart o text => o ∈ ValueOption.known level ∧ Word.ofString text = .plain text
  | raised f => f ∈ Flag.known level

def value? (o : ValueOption) : Item → Option String
  | joined o' text | apart o' text => if o' = o then some text else none
  | raised _ => none

end Item

namespace Given

def take (g : Given) : Item → Except UsageError Given
  | .joined o text | .apart o text => g.put o text
  | .raised f => g.raise f

def takeAll (g : Given) (items : List Item) : Except UsageError Given := items.foldlM take g

theorem takeAll_cons (g : Given) (i : Item) (items : List Item) :
    g.takeAll (i :: items) = (g.take i).bind fun g => g.takeAll items := rfl

end Given

theorem ValueOption.known_of_read? {level : Level} {name : String} {o : ValueOption}
    (h : LongOption.read? level name = some (.value o)) : o ∈ known level ∧ o.spelling = name := by
  simp only [LongOption.read?] at h
  split at h
  · cases h
  split at h
  · cases h
  cases hfind : (known level).find? fun o => o.spelling == name with
  | some o' =>
    have ho : o' = o := by simpa [hfind] using h
    subst ho
    exact ⟨List.mem_of_find?_eq_some hfind, by simpa using List.find?_some hfind⟩
  | none =>
    rw [hfind] at h
    simp at h

theorem Flag.known_of_read? {level : Level} {name : String} {f : Flag}
    (h : LongOption.read? level name = some (.flag f)) : f ∈ known level ∧ f.spelling = name := by
  simp only [LongOption.read?] at h
  split at h
  · cases h
  split at h
  · cases h
  cases hfind : (ValueOption.known level).find? fun o => o.spelling == name with
  | some o => simp [hfind] at h
  | none =>
    have hflag : (known level).find? (fun f => f.spelling == name) = some f := by
      simpa [hfind] using h
    exact ⟨List.mem_of_find?_eq_some hflag, by simpa using List.find?_some hflag⟩

theorem CommandWord.mem_spellings_of_read? {word : String} {c : CommandName}
    (h : read? word = some (.command c)) : word ∈ c.spellings := by
  simp only [read?] at h
  split at h
  · cases h
  · obtain ⟨c', hfind, hc⟩ := Option.map_eq_some_iff.mp h
    injection hc with hc
    subst hc
    simpa using List.find?_some hfind

namespace Pending

/-- The words that are read and whose option is not looked at yet. -/
def owed : Pending → List String
  | nothing => []
  | awaiting o => ["--" ++ o.spelling]
  | value o text => (Item.apart o text).words

def Fits (level : Level) : Pending → Prop
  | nothing => True
  | awaiting o => o ∈ ValueOption.known level
  | value o text => (Item.apart o text).Fits level

end Pending

namespace Scan
variable {level : Level} {s s' : Scan} {g g₁ g' : Given} {ws : List String} {name word : String}
  {command : Option (CommandName × List String)}

/-- A level that is read to its end: two dashes, or a command with what follows it, or nothing is left. -/
def IsLevelEnd (level : Level) : Option (CommandName × List String) → List String → Prop
  | none, rest => rest = [] ∨ rest = ["--"]
  | some (c, after), rest => level = none ∧ ∃ word ∈ c.spellings, rest = word :: after

/-- The words, after those owed, are the words of items that lead from what is given to `g`. -/
def ParsesTo (level : Level) (s : Scan) (ws : List String) (command : Option (CommandName × List String))
    (g : Given) : Prop :=
  ∃ items rest, s.pending.owed ++ ws = items.flatMap Item.words ++ rest ∧ IsLevelEnd level command rest ∧
    (∀ i ∈ items, i.Fits level) ∧ s.given.takeAll items = .ok g

theorem parsesTo_of_isLevelEnd (h : IsLevelEnd level command ws) : ParsesTo level { given := g } ws command g :=
  ⟨[], ws, rfl, h, by simp, rfl⟩

theorem ParsesTo.cons {i : Item} (hi : i.Fits level) (htake : g.take i = .ok g₁)
    (h : ParsesTo level { given := g₁ } ws command g') :
    ParsesTo level { given := g } (i.words ++ ws) command g' := by
  obtain ⟨items, rest, hws, hends, hfit, hall⟩ := h
  refine ⟨i :: items, rest, ?_, hends, ?_, ?_⟩
  · rw [List.flatMap_cons, List.append_assoc, ← hws]
    rfl
  · simpa using ⟨hi, hfit⟩
  · rw [Given.takeAll_cons, htake]
    exact hall

theorem ParsesTo.settle (hp : s.pending.Fits level) (hs : s.settled = .ok g)
    (h : ParsesTo level { given := g } ws command g') : ParsesTo level s ws command g' := by
  obtain ⟨given, pending⟩ := s
  cases pending with
  | nothing =>
    injection hs with hs
    subst hs
    exact h
  | awaiting o => cases hs
  | value o text => exact h.cons (i := .apart o text) hp hs

theorem ParsesTo.owe (h : ParsesTo level s' ws command g) (hgiven : s'.given = s.given)
    (howed : s'.pending.owed = s.pending.owed ++ [word]) : ParsesTo level s (word :: ws) command g := by
  obtain ⟨items, rest, hws, hends, hfit, hall⟩ := h
  refine ⟨items, rest, ?_, hends, hfit, hgiven ▸ hall⟩
  rw [← hws, howed, List.append_assoc, List.singleton_append]

theorem takeOption_eq_ok {o : LongOption} {value : Option String} (h : s.takeOption o value = .ok s') :
    ∃ g, s.settled = .ok g ∧
      ((∃ v text g₁, o = .value v ∧ value = some text ∧ g.put v text = .ok g₁ ∧ s' = { given := g₁ }) ∨
        (∃ v, o = .value v ∧ value = none ∧ s' = { given := g, pending := .awaiting v }) ∨
        ∃ f g₁, o = .flag f ∧ value = none ∧ g.raise f = .ok g₁ ∧ s' = { given := g₁ }) := by
  unfold takeOption at h
  split at h
  next v text =>
    obtain ⟨g₁, hbind, rfl⟩ := exists_of_map_eq_ok h
    obtain ⟨g, hs, hput⟩ := exists_of_bind_eq_ok hbind
    exact ⟨g, hs, .inl ⟨v, text, g₁, rfl, rfl, hput, rfl⟩⟩
  next v =>
    obtain ⟨g, hs, rfl⟩ := exists_of_map_eq_ok h
    exact ⟨g, hs, .inr (.inl ⟨v, rfl, rfl, rfl⟩)⟩
  next f =>
    obtain ⟨g₁, hbind, rfl⟩ := exists_of_map_eq_ok h
    obtain ⟨g, hs, hraise⟩ := exists_of_bind_eq_ok hbind
    exact ⟨g, hs, .inr (.inr ⟨f, g₁, rfl, rfl, hraise, rfl⟩)⟩
  next =>
    obtain ⟨g, -, h⟩ := exists_of_bind_eq_ok h
    cases h
  next => cases h
  next => cases h

theorem parsesTo_of_takeLong {value : Option String} (hp : s.pending.Fits level)
    (hw : Word.ofString word = .long name value) (h : s.takeLong level name value = .ok s')
    (hrest : s'.pending.Fits level → ParsesTo level s' ws command g) :
    ParsesTo level s (word :: ws) command g := by
  unfold takeLong at h
  split at h
  next o hread =>
    obtain ⟨g₀, hs, ⟨v, text, g₁, rfl, rfl, hput, rfl⟩ | ⟨v, rfl, rfl, rfl⟩ | ⟨f, g₁, rfl, rfl, hraise, rfl⟩⟩ :=
      takeOption_eq_ok h
    · obtain ⟨hknown, rfl⟩ := ValueOption.known_of_read? hread
      have hword := Word.ofString_eq_joined hw
      exact .settle hp hs (hword ▸ (hrest trivial).cons (i := .joined v text) hknown hput)
    · obtain ⟨hknown, rfl⟩ := ValueOption.known_of_read? hread
      have hword := Word.ofString_eq_bare hw
      exact .settle hp hs ((hrest hknown).owe rfl (by simp [Pending.owed, hword]))
    · obtain ⟨hknown, rfl⟩ := Flag.known_of_read? hread
      have hword := Word.ofString_eq_bare hw
      exact .settle hp hs (hword ▸ (hrest trivial).cons (i := .raised f) hknown hraise)
  next => cases h

theorem takeShort_ne_ok (level : Level) (s : Scan) (letter : Char) : s.takeShort level letter ≠ .ok s' := by
  intro h
  unfold takeShort at h
  split at h
  · obtain ⟨g, -, ⟨v, text, g₁, ho, -⟩ | ⟨v, ho, -⟩ | ⟨f, g₁, ho, -⟩⟩ := takeOption_eq_ok h <;> cases ho
  · cases h

theorem parsesTo_of_takePlain {text : String} (hp : s.pending.Fits level)
    (hw : Word.ofString word = .plain text) (h : s.takePlain level text = .ok s')
    (hrest : s'.pending.Fits level → ParsesTo level s' ws command g) :
    ParsesTo level s (word :: ws) command g := by
  obtain rfl := Word.ofString_eq_plain hw
  obtain ⟨given, pending⟩ := s
  cases pending with
  | nothing => cases h
  | awaiting o =>
    injection h with h
    subst h
    exact (hrest ⟨hp, hw⟩).owe rfl rfl
  | value o text => cases h

/-- A level that is accepted is spelled by items. -/
theorem parsesTo_of_words {scanned : Scanned} (h : words level s ws = .ok scanned) (hp : s.pending.Fits level)
    (hs : scanned.scan.settled = .ok g) : ParsesTo level s ws scanned.command g := by
  induction ws generalizing s with
  | nil =>
    injection h with h
    subst h
    exact .settle hp hs (parsesTo_of_isLevelEnd (.inl rfl))
  | cons word ws ih =>
    unfold words at h
    split at h
    next => cases h
    next c hc =>
      injection h with h
      subst h
      obtain ⟨hlevel, hread⟩ : level = none ∧ CommandWord.read? word = some (.command c) := by
        unfold commandWord? at hc
        split at hc
        next hcond => exact ⟨by simp_all, hc⟩
        next => cases hc
      exact .settle hp hs
        (parsesTo_of_isLevelEnd ⟨hlevel, word, CommandWord.mem_spellings_of_read? hread, rfl⟩)
    next hw =>
      cases ws with
      | nil =>
        injection h with h
        subst h
        exact .settle hp hs (parsesTo_of_isLevelEnd (.inr (by rw [Word.ofString_eq_separator hw])))
      | cons next ws => cases h
    next name value _ hw =>
      cases hstep : s.takeLong level name value with
      | error e => simp [hstep] at h
      | ok s₁ =>
        rw [hstep] at h
        exact parsesTo_of_takeLong hp hw hstep fun hp₁ => ih h hp₁
    next letter _ hw =>
      cases hstep : s.takeShort level letter with
      | error e => simp [hstep] at h
      | ok s₁ => exact absurd hstep (takeShort_ne_ok level s letter)
    next text _ hw =>
      cases hstep : s.takePlain level text with
      | error e => simp [hstep] at h
      | ok s₁ =>
        rw [hstep] at h
        exact parsesTo_of_takePlain hp hw hstep fun hp₁ => ih h hp₁

end Scan

end HidAccess
