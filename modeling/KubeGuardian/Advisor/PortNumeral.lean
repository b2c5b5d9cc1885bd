import KubeGuardian.Advisor.Rules

/-!
# Which texts are ports

`fmt.Sscanf` reads a number wherever it finds one after white space and a sign, and looks no
further. So `parsePort` is exact on a text unless the text is a port with something around it.

* **`parsePort_eq_ok_iff`** — the texts that are read as a given port;
* **`parsePort_exact_iff`** — a text is read as the numeral it is, and refused where it is none,
  exactly when it does not dress up a port.
-/

namespace KubeGuardian.Advisor

/-! ## Texts, as `Sscanf` takes them apart -/

/-- White space, a sign, a run of digits that goes as far as it can, and whatever follows. -/
structure Scanned (text blanks sign digits rest : List Char) : Prop where
  text_eq : text = blanks ++ (sign ++ (digits ++ rest))
  blanks : ∀ c ∈ blanks, isSpace c ∧ c ≠ '\n'
  sign : sign = [] ∨ sign = ['+'] ∨ sign = ['-']
  digits_ne : digits ≠ []
  digits : ∀ c ∈ digits, c.isDigit
  rest : ∀ c ∈ rest.head?, c.isDigit = false

def signed (sign digits : List Char) : Int :=
  if sign = ['-'] then -decimal digits else decimal digits

/-- White space goes up to the first character that is none, which a newline is not. -/
theorem exists_of_skipSpace {text rs : List Char} (h : skipSpace text = some rs) :
    ∃ blanks, text = blanks ++ rs ∧ ∀ c ∈ blanks, isSpace c ∧ c ≠ '\n' := by
  induction text with
  | nil =>
    obtain rfl := Option.some.inj h
    exact ⟨[], rfl, by simp⟩
  | cons c cs ih =>
    rw [skipSpace] at h
    split at h
    · cases h
    · next hline =>
      split at h
      · next hspace =>
        obtain ⟨blanks, rfl, hblanks⟩ := ih h
        refine ⟨c :: blanks, rfl, ?_⟩
        intro d hd
        rcases List.mem_cons.mp hd with rfl | hd
        · exact ⟨hspace, hline⟩
        · exact hblanks d hd
      · obtain rfl := Option.some.inj h
        exact ⟨[], rfl, by simp⟩

theorem skipSpace_append {blanks : List Char} (h : ∀ c ∈ blanks, isSpace c ∧ c ≠ '\n')
    (rs : List Char) : skipSpace (blanks ++ rs) = skipSpace rs := by
  induction blanks with
  | nil => rfl
  | cons c cs ih =>
    obtain ⟨hspace, hline⟩ := h c (by simp)
    rw [List.cons_append, skipSpace, if_neg hline, if_pos hspace]
    exact ih fun d hd => h d (by simp [hd])

theorem exists_of_splitSign {rs tail : List Char} {negative : Bool}
    (h : splitSign rs = (negative, tail)) :
    ∃ sign, rs = sign ++ tail ∧ (sign = [] ∨ sign = ['+'] ∨ sign = ['-'])
      ∧ negative = decide (sign = ['-']) := by
  unfold splitSign at h
  split at h <;> obtain ⟨rfl, rfl⟩ := Prod.mk.inj h
  · exact ⟨['-'], by simp⟩
  · exact ⟨['+'], by simp⟩
  · exact ⟨[], by simp⟩

theorem takeWhile_digits {digits rest : List Char} (hdigits : ∀ c ∈ digits, c.isDigit)
    (hrest : ∀ c ∈ rest.head?, c.isDigit = false) :
    (digits ++ rest).takeWhile Char.isDigit = digits := by
  rw [List.takeWhile_append_of_pos hdigits]
  cases rest with
  | nil => simp
  | cons c cs => simp [hrest c (by simp)]

/-- Before a digit no white space is left, with a sign or without. -/
theorem Scanned.skipSpace_eq {text blanks sign digits rest : List Char}
    (h : Scanned text blanks sign digits rest) :
    skipSpace text = some (sign ++ (digits ++ rest)) := by
  obtain ⟨c, cs, hcons⟩ := List.exists_cons_of_ne_nil h.digits_ne
  have hc : c.isDigit := h.digits c (by simp [hcons])
  rw [h.text_eq, skipSpace_append h.blanks]
  rcases h.sign with hsign | hsign | hsign <;> subst hsign
  · rw [List.nil_append, hcons, List.cons_append]
    exact (skip_isDigit hc _).1
  · rfl
  · rfl

theorem Scanned.splitSign_eq {text blanks sign digits rest : List Char}
    (h : Scanned text blanks sign digits rest) :
    splitSign (sign ++ (digits ++ rest)) = (decide (sign = ['-']), digits ++ rest) := by
  obtain ⟨c, cs, hcons⟩ := List.exists_cons_of_ne_nil h.digits_ne
  have hc : c.isDigit := h.digits c (by simp [hcons])
  rcases h.sign with hsign | hsign | hsign <;> subst hsign
  · rw [List.nil_append, hcons, List.cons_append]
    exact (skip_isDigit hc _).2
  · rfl
  · rfl

/-- **What `Sscanf` reads**, and from which texts. -/
theorem sscanf_eq_some_iff {s : String} {i : Int} :
    sscanf s = some i ↔ ∃ blanks sign digits rest, Scanned s.toList blanks sign digits rest
      ∧ signed sign digits = i ∧ -2 ^ 63 ≤ i ∧ i < 2 ^ 63 := by
  unfold sscanf
  constructor
  · intro h
    obtain ⟨rs, hskip, h⟩ := Option.bind_eq_some_iff.mp h
    obtain ⟨blanks, htext, hblanks⟩ := exists_of_skipSpace hskip
    rcases hsplit : splitSign rs with ⟨negative, tail⟩
    obtain ⟨sign, rfl, hsign, rfl⟩ := exists_of_splitSign hsplit
    simp only [hsplit, Option.ite_none_left_eq_some, decide_eq_true_eq] at h
    obtain ⟨hdigits, h⟩ := h
    obtain ⟨hrange, hi⟩ := Option.ite_none_right_eq_some.mp h
    obtain rfl := Option.some.inj hi
    refine ⟨blanks, sign, tail.takeWhile Char.isDigit, tail.dropWhile Char.isDigit,
      ⟨?_, hblanks, hsign, hdigits, fun c hc => List.mem_takeWhile_imp hc, ?_⟩, rfl, hrange⟩
    · rw [List.takeWhile_append_dropWhile, htext]
    · intro c hc
      -- the scan stops at the first character that is no digit
      have hstop := List.head?_dropWhile_not Char.isDigit tail
      rw [Option.mem_def.mp hc] at hstop
      simpa using hstop
  · rintro ⟨blanks, sign, digits, rest, hscan, rfl, hrange⟩
    rw [hscan.skipSpace_eq, Option.bind_eq_bind, Option.bind_some, hscan.splitSign_eq]
    simp only [takeWhile_digits hscan.digits hscan.rest, hscan.digits_ne, if_false,
      decide_eq_true_eq]
    exact if_pos hrange

/-! ## The texts that are read as a port -/

/-- **What `parsePort` accepts**: no port is negative, so there is no minus sign. -/
theorem parsePort_eq_ok_iff {s : String} {p : Int} :
    parsePort s = .ok p ↔ ∃ blanks sign digits rest, Scanned s.toList blanks sign digits rest
      ∧ sign ≠ ['-'] ∧ (decimal digits : Int) = p ∧ 1 ≤ p ∧ p ≤ 65535 := by
  have hread : parsePort s = .ok p ↔ sscanf s = some p ∧ 1 ≤ p ∧ p ≤ 65535 := by
    unfold parsePort
    cases sscanf s with
    | none => simp
    | some i =>
      simp only [Option.some.injEq]
      split
      · next hout =>
        refine iff_of_false (by simp) ?_
        rintro ⟨rfl, hlow, hhigh⟩
        omega
      · next hin =>
        rw [Except.ok.injEq]
        constructor
        · rintro rfl
          exact ⟨rfl, by omega, by omega⟩
        · exact fun h => h.1
  rw [hread, sscanf_eq_some_iff]
  constructor
  · rintro ⟨⟨blanks, sign, digits, rest, hscan, hvalue, -⟩, hlow, hhigh⟩
    -- a negative number is below the range
    have hsign : sign ≠ ['-'] := by
      intro hsign
      rw [signed, if_pos hsign] at hvalue
      omega
    rw [signed, if_neg hsign] at hvalue
    exact ⟨blanks, sign, digits, rest, hscan, hsign, hvalue, hlow, hhigh⟩
  · rintro ⟨blanks, sign, digits, rest, hscan, hsign, hvalue, hlow, hhigh⟩
    refine ⟨⟨blanks, sign, digits, rest, hscan, ?_, by omega, by omega⟩, hlow, hhigh⟩
    rw [signed, if_neg hsign, hvalue]

/-- A decimal numeral of `p`, made of digits only. -/
structure Numeral (s : String) (p : Int) : Prop where
  nonempty : s.toList ≠ []
  digits : ∀ c ∈ s.toList, c.isDigit
  value : (decimal s.toList : Int) = p

/-- `parsePort` accepts the port numbers in decimal, and nothing else. -/
def PortExact (s : String) : Prop :=
  ∀ p, parsePort s = .ok p ↔ (1 ≤ p ∧ p ≤ 65535) ∧ Numeral s p

/-- A port number with something before or after it that `Sscanf` passes over: white space, a plus
sign, or a text that does not go on with a digit. -/
def DressedPort (s : String) : Prop :=
  ∃ blanks sign digits rest, Scanned s.toList blanks sign digits rest ∧ sign ≠ ['-']
    ∧ (1 ≤ decimal digits ∧ decimal digits ≤ 65535) ∧ (blanks ≠ [] ∨ sign ≠ [] ∨ rest ≠ [])

theorem Numeral.scanned {s : String} {p : Int} (h : Numeral s p) :
    Scanned s.toList [] [] s.toList [] where
  text_eq := by simp
  blanks := by simp
  sign := .inl rfl
  digits_ne := h.nonempty
  digits := h.digits
  rest := by simp

/-- A text of digits is nothing but its digits. -/
theorem Scanned.bare {text blanks sign digits rest : List Char}
    (h : Scanned text blanks sign digits rest) (htext : ∀ c ∈ text, c.isDigit) :
    blanks = [] ∧ sign = [] ∧ rest = [] := by
  rw [h.text_eq] at htext
  refine ⟨?_, ?_, ?_⟩
  · by_contra hne
    obtain ⟨c, cs, rfl⟩ := List.exists_cons_of_ne_nil hne
    -- skipped, though a digit is not
    have hskip := (skip_isDigit (htext c (by simp)) cs).1
    obtain ⟨hspace, hline⟩ := h.blanks c (by simp)
    rw [skipSpace, if_neg hline, if_pos hspace] at hskip
    obtain ⟨blanks, hcs, -⟩ := exists_of_skipSpace hskip
    have hlength := congrArg List.length hcs
    simp at hlength
    omega
  · rcases h.sign with hsign | hsign | hsign
    · exact hsign
    · exact absurd (htext '+' (by simp [hsign])) (by decide)
    · exact absurd (htext '-' (by simp [hsign])) (by decide)
  · by_contra hne
    obtain ⟨c, cs, rfl⟩ := List.exists_cons_of_ne_nil hne
    have hdigit := htext c (by simp)
    rw [h.rest c (by simp)] at hdigit
    cases hdigit

/-- **A text is read exactly unless it dresses up a port.** -/
theorem parsePort_exact_iff (s : String) : PortExact s ↔ ¬ DressedPort s := by
  constructor
  · rintro h ⟨blanks, sign, digits, rest, hscan, hsign, ⟨hlow, hhigh⟩, hdress⟩
    have hok : parsePort s = .ok (decimal digits) :=
      parsePort_eq_ok_iff.mpr ⟨blanks, sign, digits, rest, hscan, hsign, rfl, by omega, by omega⟩
    obtain ⟨-, hnumeral⟩ := (h _).mp hok
    -- a text that is all digits has nothing around them
    obtain ⟨hblanks, hsign', hrest⟩ := hscan.bare hnumeral.digits
    simp [hblanks, hsign', hrest] at hdress
  · intro h p
    rw [parsePort_eq_ok_iff]
    constructor
    · rintro ⟨blanks, sign, digits, rest, hscan, hsign, rfl, hlow, hhigh⟩
      have hbare : ¬ (blanks ≠ [] ∨ sign ≠ [] ∨ rest ≠ []) := fun hdress =>
        h ⟨blanks, sign, digits, rest, hscan, hsign, by omega, hdress⟩
      obtain ⟨rfl, rfl, rfl⟩ : blanks = [] ∧ sign = [] ∧ rest = [] := by
        simpa only [not_or, not_not] using hbare
      have htext : s.toList = digits := by simpa using hscan.text_eq
      refine ⟨⟨hlow, hhigh⟩, ?_, ?_, ?_⟩
      · rw [htext]; exact hscan.digits_ne
      · rw [htext]; exact hscan.digits
      · rw [htext]
    · rintro ⟨⟨hlow, hhigh⟩, hnumeral⟩
      exact ⟨[], [], s.toList, [], hnumeral.scanned, by simp, hnumeral.value, hlow, hhigh⟩

def portRangeRecord : PodTraffic :=
  ⟨"1", "web", "10.0.0.5", "shop", "80-443", "INGRESS", "10.0.0.9", "0", "TCP"⟩

/-- A range of ports is read as its first, which a rule then lets in. -/
theorem portRange_not_exact :
    parsePort "80-443" = .ok 80 ∧ ¬ Numeral "80-443" 80 ∧ ¬ PortExact "80-443"
      ∧ processTrafficRules [portRangeRecord] ⟨"10.0.0.5", "web", "shop", ⟨∅⟩⟩
        = ([⟨"10.0.0.9", [⟨some (.fromInt 80), some .tcp⟩]⟩], []) := by
  have hok : parsePort "80-443" = .ok 80 := by decide
  have hnot : ¬ Numeral "80-443" 80 := fun h => absurd (h.digits '-' (by decide)) (by decide)
  exact ⟨hok, hnot, fun h => hnot ((h 80).mp hok).2, by decide⟩

end KubeGuardian.Advisor
