import Meterboard.Proofs.Duration

/-!
# The grammar of a duration

A text is taken for a duration in two ways: it is written as one, or it begins with an integer.  The
first is exact, and the second is what is left for texts that are not written so.  A written text
begins with an integer too, its number without the unit, so the order of the two matters.

* `Written` — digits, alone or with a unit letter behind them.
* `Sign`, `Leads` — blanks, at most one sign, digits, and anything that does not begin with another
  digit.
* `written?_iff`, `leading?_iff` — the readers follow the grammar, and so a text is written in one
  way at most and begins with one integer at most.
* `read_iff` — what is read of every text.
-/

namespace Meterboard.Duration

/-! ## Texts -/

/-- One or more ASCII digits, with the number they stand for. -/
structure Numeral (digits : List Char) (n : Nat) : Prop where
  some_digit : digits ≠ []
  all_digits : ∀ c ∈ digits, c.isDigit = true
  value : Text.valueOf digits = n

/-- The written form of a duration: digits that count seconds, or digits and the letter of the unit
that they count. -/
inductive Written : List Char → Nat → Unit → Prop
  | bare {digits : List Char} {n : Nat} : Numeral digits n → Written digits n .second
  | withUnit {digits : List Char} {n : Nat} (u : Unit) :
      Numeral digits n → Written (digits ++ [u.letter]) n u

/-- What may stand in front of the digits of an integer. -/
inductive Sign where
  | none
  | plus
  | minus
deriving DecidableEq, Repr

/-- The text of a sign. -/
def Sign.text : Sign → List Char
  | .none => []
  | .plus => ['+']
  | .minus => ['-']

/-- The integer of a sign and a number. -/
def Sign.apply : Sign → Nat → Int
  | .minus, n => -n
  | _, n => n

/-- A text that begins with an integer, behind any blanks: at most one sign and all the digits that
are there.  The digits do not pass the limit. -/
inductive Leads : List Char → Int → Prop
  | intro {blanks digits rest : List Char} {n : Nat} (sign : Sign) :
      (∀ c ∈ blanks, Text.isBlank c = true) → Numeral digits n → n ≤ limit →
      (∀ c ∈ rest.head?, c.isDigit = false) →
      Leads (blanks ++ (sign.text ++ (digits ++ rest))) (sign.apply n)

/-! ## The readers follow the grammar -/

lemma numeral_iff {digits : List Char} {n : Nat} :
    Numeral digits n ↔ Text.natural? digits = some n := by
  rw [Text.natural?_eq_some_iff]
  exact ⟨fun h => ⟨h.some_digit, h.all_digits, h.value⟩, fun h => ⟨h.1, h.2.1, h.2.2⟩⟩

lemma written?_iff {s : List Char} {n : Nat} {u : Unit} :
    written? s = some (n, u) ↔ Written s n u := by
  rw [written?_eq_some_iff]
  constructor
  · rintro ⟨digits, hdigits, rfl | ⟨rfl, rfl⟩⟩
    · exact .withUnit u (numeral_iff.2 hdigits)
    · exact .bare (numeral_iff.2 hdigits)
  · rintro (h | ⟨u, h⟩)
    · exact ⟨_, numeral_iff.1 h, .inr ⟨rfl, rfl⟩⟩
    · exact ⟨_, numeral_iff.1 h, .inl rfl⟩

/-- The number at the front of a text, with what follows it. -/
lemma magnitude?_eq_some_iff {s : List Char} {n : Nat} :
    leading?.magnitude? s = some n ↔ ∃ digits rest, s = digits ++ rest ∧ Numeral digits n ∧
      n ≤ limit ∧ ∀ c ∈ rest.head?, c.isDigit = false := by
  constructor
  · intro h
    obtain ⟨m, hdigits, hlimit⟩ := Option.bind_eq_some_iff.1 h
    obtain ⟨hle, rfl⟩ : m ≤ limit ∧ m = n := by simpa using hlimit
    refine ⟨_, _, List.takeWhile_append_dropWhile.symm, numeral_iff.2 hdigits, hle, fun c hc => ?_⟩
    have hstop := List.head?_dropWhile_not Char.isDigit s
    rw [Option.mem_def] at hc
    rwa [hc] at hstop
  · rintro ⟨digits, rest, rfl, hdigits, hlimit, hrest⟩
    have hnone : rest.takeWhile Char.isDigit = [] := by
      cases rest with
      | nil => rfl
      | cons c rest => simp [hrest c rfl]
    rw [magnitude?_append digits hnone, magnitude?_of_natural (numeral_iff.1 hdigits),
      if_pos hlimit]

lemma trimLeft_cons {c : Char} (h : Text.isBlank c = false) (s : List Char) :
    Text.trimLeft (c :: s) = c :: s := by
  rw [Text.trimLeft, List.dropWhile_cons, h, if_neg Bool.false_ne_true]

/-- Behind its blanks, a text begins with a sign that is followed by a number, or with a number. -/
lemma leads_iff {s : List Char} {v : Int} :
    Leads s v ↔ ∃ sign rest n, Text.trimLeft s = sign.text ++ rest ∧
      leading?.magnitude? rest = some n ∧ v = Sign.apply sign n := by
  constructor
  · rintro ⟨sign, hblanks, hdigits, hlimit, hrest⟩
    rename_i blanks digits rest n
    refine ⟨sign, digits ++ rest, n, ?_,
      magnitude?_eq_some_iff.2 ⟨digits, rest, rfl, hdigits, hlimit, hrest⟩, rfl⟩
    rw [Text.trimLeft_append hblanks]
    obtain ⟨d, ds, rfl⟩ := List.exists_cons_of_ne_nil hdigits.some_digit
    cases sign with
    | none =>
        have hdigit := hdigits.all_digits d List.mem_cons_self
        exact trimLeft_cons (Text.not_isBlank_of_isDigit hdigit) _
    | plus => exact trimLeft_cons (by decide) _
    | minus => exact trimLeft_cons (by decide) _
  · rintro ⟨sign, rest, n, htrim, hmagnitude, rfl⟩
    obtain ⟨digits, rest, rfl, hdigits, hlimit, hrest⟩ := magnitude?_eq_some_iff.1 hmagnitude
    have hsplit : s = s.takeWhile Text.isBlank ++ (sign.text ++ (digits ++ rest)) := by
      rw [← htrim]
      exact List.takeWhile_append_dropWhile.symm
    rw [hsplit]
    exact .intro sign (fun c hc => List.all_eq_true.1 List.all_takeWhile c hc) hdigits hlimit hrest

/-- The reader finds the integer that a text begins with. -/
lemma leading?_iff {s : List Char} {v : Int} : leading? s = some v ↔ Leads s v := by
  rw [leads_iff]
  constructor
  · intro h
    by_cases hminus : ∃ rest, Text.trimLeft s = '-' :: rest
    · obtain ⟨rest, hrest⟩ := hminus
      rw [leading?_minus hrest] at h
      obtain ⟨n, hn, rfl⟩ := Option.map_eq_some_iff.1 h
      exact ⟨.minus, rest, n, hrest, hn, rfl⟩
    by_cases hplus : ∃ rest, Text.trimLeft s = '+' :: rest
    · obtain ⟨rest, hrest⟩ := hplus
      rw [leading?_plus hrest] at h
      obtain ⟨n, hn, rfl⟩ := Option.map_eq_some_iff.1 h
      exact ⟨.plus, rest, n, hrest, hn, rfl⟩
    · rw [leading?_plain rfl (fun rest h => hminus ⟨rest, h⟩) (fun rest h => hplus ⟨rest, h⟩)] at h
      obtain ⟨n, hn, rfl⟩ := Option.map_eq_some_iff.1 h
      exact ⟨.none, Text.trimLeft s, n, rfl, hn, rfl⟩
  · rintro ⟨sign, rest, n, htrim, hn, rfl⟩
    cases sign with
    | minus =>
        have hfront : Text.trimLeft s = '-' :: rest := htrim
        rw [leading?_minus hfront, hn]
        rfl
    | plus =>
        have hfront : Text.trimLeft s = '+' :: rest := htrim
        rw [leading?_plus hfront, hn]
        rfl
    | none =>
        have hfront : Text.trimLeft s = rest := htrim
        -- digits are no signs
        obtain ⟨digits, after, hrest, hdigits, -, -⟩ := magnitude?_eq_some_iff.1 hn
        have hfirst : ∀ c cs, c.isDigit = false → rest ≠ c :: cs := by
          rintro c cs hc rfl
          obtain ⟨d, ds, rfl⟩ := List.exists_cons_of_ne_nil hdigits.some_digit
          obtain ⟨rfl, -⟩ := List.cons.inj hrest
          cases hc.symm.trans (hdigits.all_digits c List.mem_cons_self)
        rw [leading?_plain hfront (fun cs => hfirst '-' cs rfl) (fun cs => hfirst '+' cs rfl), hn]
        rfl

/-- A text begins with one integer at most. -/
lemma Leads.unique {s : List Char} {v v' : Int} (h : Leads s v) (h' : Leads s v') : v = v' :=
  Option.some.inj ((leading?_iff.2 h).symm.trans (leading?_iff.2 h'))

lemma Leads.bounds {s : List Char} {v : Int} (h : Leads s v) : -limit ≤ v ∧ v ≤ limit := by
  obtain ⟨sign, -, -, hlimit, -⟩ := h
  cases sign <;> simp only [Sign.apply] <;> omega

/-! ## What is read of a text -/

/-- The text is in the written form, and its number alone does not pass the limit. -/
structure Measured (s : List Char) (n : Nat) (u : Unit) : Prop where
  written : Written s n u
  le_limit : n ≤ limit

lemma Measured.unique {s : List Char} {n n' : Nat} {u u' : Unit} (h : Measured s n u)
    (h' : Measured s n' u') : n = n' ∧ u = u' := by
  have hsame := (written?_iff.2 h.written).symm.trans (written?_iff.2 h'.written)
  exact Prod.mk.inj (Option.some.inj hsame)

lemma readChars_of_measured {s : List Char} {n : Nat} {u : Unit} (h : Measured s n u) :
    readChars s = if n * u.seconds ≤ limit then .exact (n * u.seconds : Nat) else .unreadable := by
  rw [readChars, written?_iff.2 h.written]

/-- Where a number passes the limit, no integer is found either: it would be the same number. -/
lemma readChars_of_not_measured {s : List Char} (h : ¬ ∃ n u, Measured s n u) :
    readChars s = ((leading? s).map Reading.lenient).getD .unreadable := by
  cases hwritten : written? s with
  | none =>
      rw [readChars, hwritten]
      cases leading? s <;> rfl
  | some found =>
      obtain ⟨n, u⟩ := found
      have hlimit : ¬ n ≤ limit := fun hle => h ⟨n, u, written?_iff.1 hwritten, hle⟩
      have hproduct : ¬ n * u.seconds ≤ limit := fun hle =>
        hlimit (Nat.le_trans (Nat.le_mul_of_pos_right n u.seconds_pos) hle)
      rw [leading?_of_written hwritten, if_neg hlimit, readChars, hwritten]
      exact if_neg hproduct

lemma seconds?_bounds {s : String} {v : Int} (h : (read s).seconds? = some v) :
    -limit ≤ v ∧ v ≤ limit := by
  rw [read] at h
  by_cases hmeasured : ∃ n u, Measured s.toList n u
  · obtain ⟨n, u, hn⟩ := hmeasured
    rw [seconds?_readChars_of_written (written?_iff.2 hn.written)] at h
    split at h
    · cases h
      omega
    · cases h
  · rw [readChars_of_not_measured hmeasured] at h
    cases hleading : leading? s.toList with
    | none => simp [hleading, Reading.seconds?] at h
    | some w =>
        obtain rfl : w = v := by simpa [hleading, Reading.seconds?] using h
        exact (leading?_iff.1 hleading).bounds

lemma read_eq_exact_iff {s : String} {v : Int} :
    read s = .exact v ↔
      ∃ n u, Measured s.toList n u ∧ n * u.seconds ≤ limit ∧ v = (n * u.seconds : Nat) := by
  rw [read]
  constructor
  · intro h
    by_cases hmeasured : ∃ n u, Measured s.toList n u
    · obtain ⟨n, u, hn⟩ := hmeasured
      rw [readChars_of_measured hn] at h
      split at h
      · rename_i hfits
        exact ⟨n, u, hn, hfits, (Reading.exact.inj h).symm⟩
      · cases h
    · rw [readChars_of_not_measured hmeasured] at h
      cases hleading : leading? s.toList <;> simp [hleading] at h
  · rintro ⟨n, u, hn, hfits, rfl⟩
    rw [readChars_of_measured hn, if_pos hfits]

lemma read_eq_lenient_iff {s : String} {v : Int} :
    read s = .lenient v ↔ (¬ ∃ n u, Measured s.toList n u) ∧ Leads s.toList v := by
  rw [read]
  by_cases hmeasured : ∃ n u, Measured s.toList n u
  · obtain ⟨n, u, hn⟩ := hmeasured
    have hother : readChars s.toList ≠ .lenient v := by
      rw [readChars_of_measured hn]
      split <;> exact nofun
    exact iff_of_false hother fun h => h.1 ⟨n, u, hn⟩
  · rw [readChars_of_not_measured hmeasured, ← leading?_iff]
    cases leading? s.toList <;> simp [hmeasured]

lemma read_eq_unreadable_iff {s : String} :
    read s = .unreadable ↔ (∃ n u, Measured s.toList n u ∧ limit < n * u.seconds) ∨
      ((¬ ∃ n u, Measured s.toList n u) ∧ ¬ ∃ v, Leads s.toList v) := by
  rw [read]
  by_cases hmeasured : ∃ n u, Measured s.toList n u
  · obtain ⟨n, u, hn⟩ := hmeasured
    rw [readChars_of_measured hn]
    constructor
    · intro h
      split at h
      · cases h
      · rename_i hpasses
        exact .inl ⟨n, u, hn, Nat.not_le.1 hpasses⟩
    · rintro (⟨n', u', hn', hpasses⟩ | ⟨hnone, -⟩)
      · obtain ⟨rfl, rfl⟩ := hn.unique hn'
        rw [if_neg (Nat.not_le.2 hpasses)]
      · exact absurd ⟨n, u, hn⟩ hnone
  · have hfew : ¬ ∃ n u, Measured s.toList n u ∧ limit < n * u.seconds :=
      fun ⟨n, u, hn, _⟩ => hmeasured ⟨n, u, hn⟩
    rw [or_iff_right hfew, and_iff_right hmeasured, readChars_of_not_measured hmeasured]
    simp only [← leading?_iff]
    cases leading? s.toList <;> simp

/-- **What is read of a text.**

* Digits whose number does not pass the limit, alone or with a unit letter behind them, are read
  exactly, as that many units, if these do not pass the limit either.  If they do, nothing is read.
* Any other text is read by the integer that it begins with behind its blanks, and by nothing else.
* There is one such number of units at most, and one such integer.  What is read stays within the
  limit on both sides. -/
theorem read_iff (s : String) :
    (∀ v, read s = .exact v ↔
      ∃ n u, Measured s.toList n u ∧ n * u.seconds ≤ limit ∧ v = (n * u.seconds : Nat)) ∧
    (∀ v, read s = .lenient v ↔ (¬ ∃ n u, Measured s.toList n u) ∧ Leads s.toList v) ∧
    (read s = .unreadable ↔ (∃ n u, Measured s.toList n u ∧ limit < n * u.seconds) ∨
      ((¬ ∃ n u, Measured s.toList n u) ∧ ¬ ∃ v, Leads s.toList v)) ∧
    (∀ n u n' u', Measured s.toList n u → Measured s.toList n' u' → n = n' ∧ u = u') ∧
    (∀ v v', Leads s.toList v → Leads s.toList v' → v = v') ∧
    ∀ v, (read s).seconds? = some v → -limit ≤ v ∧ v ≤ limit :=
  ⟨fun _ => read_eq_exact_iff, fun _ => read_eq_lenient_iff, read_eq_unreadable_iff,
    fun _ _ _ _ h h' => h.unique h', fun _ _ h h' => h.unique h', fun _ => seconds?_bounds⟩

/-- Two weeks; a number of weeks behind a wide blank and a sign; and weeks that pass the limit,
whose number alone would not. -/
theorem read_iff_weeks :
    read "2w" = .exact 1209600 ∧ read "\u3000-12w" = .lenient (-12) ∧
    read "9223372036854775807w" = .unreadable ∧
    (∀ v, Leads "\u3000-12w".toList v → v = -12) := by
  obtain ⟨hexact, -⟩ := read_iff "2w"
  obtain ⟨-, hlenient, -, -, hunique, -⟩ := read_iff "\u3000-12w"
  obtain ⟨-, -, hunreadable, -⟩ := read_iff "9223372036854775807w"
  have htwo : Measured "2w".toList 2 .week := ⟨written?_iff.1 (by decide), by decide⟩
  have hmany : Measured "9223372036854775807w".toList limit .week :=
    ⟨written?_iff.1 (by decide), Nat.le_refl _⟩
  have hleads : Leads "\u3000-12w".toList (-12) := leading?_iff.1 (by decide)
  refine ⟨(hexact _).2 ⟨2, .week, htwo, by decide, rfl⟩, (hlenient _).2 ⟨?_, hleads⟩,
    hunreadable.2 (.inl ⟨limit, .week, hmany, by decide⟩), fun v hv => hunique v _ hv hleads⟩
  rintro ⟨n, u, h⟩
  have hnone : written? "\u3000-12w".toList = none := by decide
  cases hnone.symm.trans (written?_iff.2 h.written)

end Meterboard.Duration
