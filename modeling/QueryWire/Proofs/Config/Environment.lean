/-
  What the variables of an environment say about a configuration.

  A timeout is accepted exactly if it is a numeral of 64 bits, with a plus sign
  perhaps and blanks around it (`readMillis_trim_eq_ok_iff`).  So a configuration
  is read from the environment exactly if each of its fields is what its own
  variable says, or the standard one (`ofEnvironment_eq_ok_iff`), and a fault is
  that of the endpoint, or else that of the timeout
  (`ofEnvironment_eq_error_iff`).
-/
import Mathlib.Data.List.TakeWhile
import QueryWire.Config
import QueryWire.Proofs.Calendar.DateText
import QueryWire.Proofs.Json.NumberText

namespace QueryWire

/-! ## Blanks at both ends -/

namespace Text

variable {cs : List Char}

theorem trimLeft_append_of_blanks {front : List Char} (h : ∀ c ∈ front, isBlank c = true)
    (cs : List Char) : trimLeft (front ++ cs) = trimLeft cs :=
  List.dropWhile_append_of_pos h

theorem trimLeft_of_no_blanks (h : ∀ c ∈ cs, isBlank c = false) : trimLeft cs = cs := by
  cases cs with
  | nil => rfl
  | cons c cs => exact Calendar.trimLeft_cons (h c List.mem_cons_self)

theorem exists_trimLeft (cs : List Char) :
    ∃ front, cs = front ++ trimLeft cs ∧ ∀ c ∈ front, isBlank c = true :=
  ⟨cs.takeWhile isBlank, List.takeWhile_append_dropWhile.symm,
    fun _ hc => List.mem_takeWhile_imp hc⟩

theorem exists_trim (cs : List Char) :
    ∃ front back, cs = front ++ trim cs ++ back ∧ ∀ c ∈ front ++ back, isBlank c = true := by
  obtain ⟨front, hf, hfb⟩ := exists_trimLeft cs
  obtain ⟨back, hb, hbb⟩ := exists_trimLeft (trimLeft cs).reverse
  refine ⟨front, back.reverse, ?_, ?_⟩
  · have hr := congrArg List.reverse hb
    rw [List.reverse_reverse, List.reverse_append] at hr
    rw [List.append_assoc, trim, ← hr]
    exact hf
  · intro c hc
    rcases List.mem_append.mp hc with hc | hc
    · exact hfb c hc
    · exact hbb c (List.mem_reverse.mp hc)

/-- A text without blanks is what is left between blanks. -/
theorem trim_between {front back : List Char} (hcs : ∀ c ∈ cs, isBlank c = false)
    (hb : ∀ c ∈ front ++ back, isBlank c = true) : trim (front ++ cs ++ back) = cs := by
  have hfront : ∀ c ∈ front, isBlank c = true := fun c hc => hb c (List.mem_append_left _ hc)
  have hback : ∀ c ∈ back, isBlank c = true := fun c hc => hb c (List.mem_append_right _ hc)
  have hreverse : ∀ c ∈ cs.reverse, isBlank c = false := fun c hc => hcs c (List.mem_reverse.mp hc)
  rw [trim, List.append_assoc, trimLeft_append_of_blanks hfront]
  cases cs with
  | nil =>
    have hn : trimLeft back = [] := List.dropWhile_eq_nil_iff.mpr hback
    rw [List.nil_append, hn]
    rfl
  | cons c cs =>
    rw [List.cons_append, Calendar.trimLeft_cons (hcs c List.mem_cons_self), ← List.cons_append,
      List.reverse_append, trimLeft_append_of_blanks fun d hd => hback d (List.mem_reverse.mp hd),
      trimLeft_of_no_blanks hreverse, List.reverse_reverse]

end Text

/-! ## Numbers of milliseconds -/

theorem readDigits_eq_ok_iff {cs : List Char} {n millis : Nat} (hn : n < UInt64.size) :
    readDigits n cs = .ok millis ↔ (∀ c ∈ cs, c.isDigit = true) ∧
      Nat.ofDigitChars 10 cs n = millis ∧ millis < UInt64.size := by
  induction cs generalizing n with
  | nil =>
    constructor
    · rintro ⟨⟩
      exact ⟨fun c hc => (by cases hc), rfl, hn⟩
    · rintro ⟨-, rfl, -⟩
      rfl
  | cons c cs ih =>
    rw [readDigits, List.forall_mem_cons, Nat.ofDigitChars_cons]
    by_cases hc : c.isDigit = true
    · have hd : 10 * n + (c.toNat - '0'.toNat) = n * 10 + (c.toNat - 48) := by
        rw [Nat.mul_comm]
        rfl
      rw [Json.digit?_of_isDigit hc, hd]
      dsimp only
      by_cases hs : n * 10 + (c.toNat - 48) < UInt64.size
      · rw [if_pos hs, ih hs, and_iff_right hc]
      · rw [if_neg hs]
        refine iff_of_false (fun h => by cases h) ?_
        rintro ⟨-, rfl, hlt⟩
        -- more digits do not make the number smaller
        have := Json.le_ofDigitChars cs (n * 10 + (c.toNat - 48))
        omega
    · rw [Json.digit?_of_not_isDigit (Bool.eq_false_iff.mpr hc)]
      exact iff_of_false (fun h => by cases h) fun h => hc h.1.1

/-- A numeral of 64 bits, with a plus sign perhaps. -/
def MillisNumeral (cs : List Char) (millis : Nat) : Prop :=
  ∃ sign digits, cs = sign ++ digits ∧ (sign = [] ∨ sign = ['+']) ∧ digits ≠ [] ∧
    (∀ c ∈ digits, c.isDigit = true) ∧ Text.Numeral.value digits = millis ∧ millis < UInt64.size

theorem readMillis_eq_ok_iff {cs : List Char} {millis : Nat} :
    readMillis cs = .ok millis ↔ MillisNumeral cs millis := by
  have hread : ∀ digits, readDigits 0 digits = .ok millis ↔ (∀ c ∈ digits, c.isDigit = true) ∧
      Text.Numeral.value digits = millis ∧ millis < UInt64.size :=
    fun digits => readDigits_eq_ok_iff (by decide)
  have hplus : ('+' : Char).isDigit ≠ true := by decide
  constructor
  · intro h
    unfold readMillis at h
    split at h
    · cases h
    · cases h
    · rename_i digits hne
      exact ⟨['+'], digits, rfl, .inr rfl, fun hd => hne (hd ▸ rfl), (hread digits).mp h⟩
    · rename_i hne _ _
      exact ⟨[], cs, rfl, .inl rfl, hne, (hread cs).mp h⟩
  · rintro ⟨sign, digits, rfl, hs, hne, hd⟩
    obtain ⟨c, digits, rfl⟩ := List.exists_cons_of_ne_nil hne
    rcases hs with rfl | rfl
    · have hc : c ≠ '+' := by
        rintro rfl
        exact hplus (hd.1 '+' List.mem_cons_self)
      simpa [readMillis, hc] using (hread _).mpr hd
    · exact (hread _).mpr hd

/-- A numeral of 64 bits with blanks around it. -/
def MillisText (text : String) (millis : Nat) : Prop :=
  ∃ front numeral back, text.toList = front ++ numeral ++ back ∧
    (∀ c ∈ front ++ back, Text.isBlank c = true) ∧ MillisNumeral numeral millis

theorem readMillis_trim_eq_ok_iff {text : String} {millis : Nat} :
    readMillis (Text.trim text.toList) = .ok millis ↔ MillisText text millis := by
  constructor
  · intro h
    obtain ⟨front, back, ht, hb⟩ := Text.exists_trim text.toList
    exact ⟨front, _, back, ht, hb, readMillis_eq_ok_iff.mp h⟩
  · rintro ⟨front, numeral, back, ht, hb, hm⟩
    have hn : ∀ c ∈ numeral, Text.isBlank c = false := by
      obtain ⟨sign, digits, rfl, hs, -, hd, -⟩ := hm
      intro c hc
      rcases List.mem_append.mp hc with hc | hc
      · rcases hs with rfl | rfl
        · cases hc
        · rw [List.mem_singleton.mp hc]
          rfl
      · exact Calendar.isBlank_of_isDigit (hd c hc)
    rw [ht, Text.trim_between hn hb]
    exact readMillis_eq_ok_iff.mpr hm

theorem Duration.ext_inNanos {d e : Duration} (h : d.inNanos = e.inNanos) : d = e := by
  obtain ⟨s, n, hn⟩ := d
  obtain ⟨t, m, hm⟩ := e
  simp only [inNanos] at h
  obtain rfl : n = m := by omega
  obtain rfl : s = t := by omega
  rfl

namespace Config

/-! ## Variables -/

/-- The variable is set to this text. -/
def Holds (vars : Variables) (name text : String) : Prop :=
  vars name = some text.toUTF8

/-- A field is what the text of its variable stands for, or the standard one if
    the variable holds no text. -/
def Follows {α : Type} (vars : Variables) (name : String) (reads : String → α → Prop)
    (usual x : α) : Prop :=
  (∃ text, Holds vars name text ∧ reads text x) ∨
    (∀ text, ¬ Holds vars name text) ∧ x = usual

theorem fromUTF8?_eq_some_iff {bytes : ByteArray} {text : String} :
    String.fromUTF8? bytes = some text ↔ bytes = text.toUTF8 := by
  unfold String.fromUTF8?
  constructor
  · intro h
    split at h
    · cases h
      rfl
    · cases h
  · rintro rfl
    exact dif_pos text.isValidUTF8

theorem ofVariables_eq_some_iff {vars : Variables} {name text : String} :
    Environment.ofVariables vars name = some text ↔ Holds vars name text := by
  simp only [Environment.ofVariables, Option.bind_eq_some_iff, fromUTF8?_eq_some_iff, Holds]
  exact ⟨fun ⟨_, h, he⟩ => he ▸ h, fun h => ⟨_, h, rfl⟩⟩

theorem ofVariables_eq_none_iff {vars : Variables} {name : String} :
    Environment.ofVariables vars name = none ↔ ∀ text, ¬ Holds vars name text := by
  simp only [← ofVariables_eq_some_iff, Option.eq_none_iff_forall_ne_some, ne_eq]

theorem follows_of_some {α : Type} {vars : Variables} {name text : String}
    {reads : String → α → Prop} {usual x : α}
    (h : Environment.ofVariables vars name = some text) :
    Follows vars name reads usual x ↔ reads text x := by
  have hh := ofVariables_eq_some_iff.mp h
  constructor
  · rintro (⟨text', ht, hr⟩ | ⟨hn, -⟩)
    · cases h.symm.trans (ofVariables_eq_some_iff.mpr ht)
      exact hr
    · exact absurd hh (hn text)
  · exact fun hr => .inl ⟨text, hh, hr⟩

theorem follows_of_none {α : Type} {vars : Variables} {name : String}
    {reads : String → α → Prop} {usual x : α}
    (h : Environment.ofVariables vars name = none) :
    Follows vars name reads usual x ↔ x = usual := by
  have hn := ofVariables_eq_none_iff.mp h
  constructor
  · rintro (⟨text, ht, -⟩ | ⟨-, hx⟩)
    · exact absurd ht (hn text)
    · exact hx
  · exact fun hx => .inr ⟨hn, hx⟩

/-! ## Fields -/

variable {vars : Variables}

theorem endpointOf_eq_ok_iff {url : Url} :
    endpointOf (.ofVariables vars) = .ok url ↔
      Follows vars endpointVariable (fun text url => Url.parse text = .ok url)
        standard.endpoint url := by
  unfold endpointOf
  cases h : Environment.ofVariables vars endpointVariable with
  | none =>
    rw [follows_of_none h, Except.ok.injEq]
    exact eq_comm
  | some text =>
    rw [follows_of_some h]
    dsimp only
    cases Url.parse text <;> simp

theorem endpointOf_eq_error_iff {fault : ConfigFault} :
    endpointOf (.ofVariables vars) = .error fault ↔
      ∃ text cause, Holds vars endpointVariable text ∧ Url.parse text = .error cause ∧
        fault = .invalidEndpoint cause := by
  simp only [← ofVariables_eq_some_iff, endpointOf]
  cases Environment.ofVariables vars endpointVariable with
  | none => simp
  | some text =>
    dsimp only
    cases hp : Url.parse text <;> simp [hp, eq_comm]

/-- A duration is the number of milliseconds that a text writes. -/
def IsTimeout (text : String) (d : Duration) : Prop :=
  ∃ millis, MillisText text millis ∧ d.inNanos = millis * 1000000

theorem isTimeout_iff {text : String} {d : Duration} :
    IsTimeout text d ↔
      ∃ millis, readMillis (Text.trim text.toList) = .ok millis ∧ d = .ofMillis millis := by
  unfold IsTimeout
  refine exists_congr fun millis => ?_
  rw [readMillis_trim_eq_ok_iff, ← Duration.inNanos_ofMillis]
  exact and_congr_right fun _ => ⟨Duration.ext_inNanos, fun h => h ▸ rfl⟩

theorem timeoutOf_eq_ok_iff {d : Duration} :
    timeoutOf (.ofVariables vars) = .ok d ↔
      Follows vars timeoutVariable IsTimeout standard.timeout d := by
  unfold timeoutOf
  cases h : Environment.ofVariables vars timeoutVariable with
  | none =>
    rw [follows_of_none h, Except.ok.injEq]
    exact eq_comm
  | some text =>
    rw [follows_of_some h, isTimeout_iff]
    dsimp only
    cases readMillis (Text.trim text.toList) <;> simp [eq_comm]

theorem timeoutOf_eq_error_iff {fault : ConfigFault} :
    timeoutOf (.ofVariables vars) = .error fault ↔
      ∃ text cause, Holds vars timeoutVariable text ∧
        readMillis (Text.trim text.toList) = .error cause ∧ fault = .invalidTimeout text cause := by
  simp only [← ofVariables_eq_some_iff, timeoutOf]
  cases Environment.ofVariables vars timeoutVariable with
  | none => simp
  | some text =>
    dsimp only
    cases hr : readMillis (Text.trim text.toList) <;> simp [hr, eq_comm]

theorem secret_follows_iff {secret : Option String} :
    Follows vars secretVariable (fun text secret => secret = some text) standard.secret
      secret ↔ secret = Environment.ofVariables vars secretVariable := by
  cases h : Environment.ofVariables vars secretVariable with
  | none => exact follows_of_none h
  | some text => exact follows_of_some h

/-! ## Configurations -/

/-- Each field follows a variable of its own, and no variable concerns the user agent. -/
structure Describes (vars : Variables) (config : Config) : Prop where
  endpoint : Follows vars endpointVariable (fun text url => Url.parse text = .ok url)
    standard.endpoint config.endpoint
  secret : Follows vars secretVariable (fun text secret => secret = some text)
    standard.secret config.secret
  timeout : Follows vars timeoutVariable IsTimeout standard.timeout config.timeout
  userAgent : config.userAgent = standard.userAgent

theorem ofEnvironment_eq_ok_iff {env : Environment} {config : Config} :
    ofEnvironment env = .ok config ↔ endpointOf env = .ok config.endpoint ∧
      timeoutOf env = .ok config.timeout ∧ config.secret = env secretVariable ∧
        config.userAgent = standard.userAgent := by
  obtain ⟨endpoint, secret, timeout, userAgent⟩ := config
  unfold ofEnvironment
  cases endpointOf env with
  | error fault => simp
  | ok url =>
    cases timeoutOf env with
    | error fault => simp
    | ok d =>
      simp only [Except.ok.injEq, mk.injEq]
      exact ⟨fun ⟨he, hs, ht, hu⟩ => ⟨he, ht, hs.symm, hu.symm⟩,
        fun ⟨he, ht, hs, hu⟩ => ⟨he, hs.symm, ht, hu.symm⟩⟩

theorem ofEnvironment_eq_error_iff {env : Environment} {fault : ConfigFault} :
    ofEnvironment env = .error fault ↔ endpointOf env = .error fault ∨
      (∃ url, endpointOf env = .ok url) ∧ timeoutOf env = .error fault := by
  unfold ofEnvironment
  cases endpointOf env with
  | error fault => simp
  | ok url => cases timeoutOf env <;> simp

theorem describes_iff {config : Config} :
    Describes vars config ↔ ofEnvironment (.ofVariables vars) = .ok config := by
  rw [ofEnvironment_eq_ok_iff, endpointOf_eq_ok_iff, timeoutOf_eq_ok_iff, ← secret_follows_iff]
  exact ⟨fun h => ⟨h.endpoint, h.timeout, h.secret, h.userAgent⟩,
    fun ⟨he, ht, hs, hu⟩ => ⟨he, hs, ht, hu⟩⟩

/-- The variable holds no text, or a URL. -/
def EndpointAccepted (vars : Variables) : Prop :=
  ∀ text, Holds vars endpointVariable text → ∃ url, Url.parse text = .ok url

/-- The variable holds no text, or a number of milliseconds. -/
def TimeoutAccepted (vars : Variables) : Prop :=
  ∀ text, Holds vars timeoutVariable text → ∃ millis, MillisText text millis

theorem endpointAccepted_iff :
    EndpointAccepted vars ↔ ∃ url, endpointOf (.ofVariables vars) = .ok url := by
  simp only [EndpointAccepted, ← ofVariables_eq_some_iff, endpointOf]
  cases Environment.ofVariables vars endpointVariable with
  | none => simp
  | some text => cases hp : Url.parse text <;> simp [hp]

theorem timeoutAccepted_iff :
    TimeoutAccepted vars ↔ ∃ d, timeoutOf (.ofVariables vars) = .ok d := by
  simp only [TimeoutAccepted, ← ofVariables_eq_some_iff, ← readMillis_trim_eq_ok_iff, timeoutOf]
  cases Environment.ofVariables vars timeoutVariable with
  | none => simp
  | some text => cases hr : readMillis (Text.trim text.toList) <;> simp [hr]

theorem exists_config_iff :
    (∃ config, ofEnvironment (.ofVariables vars) = .ok config) ↔
      EndpointAccepted vars ∧ TimeoutAccepted vars := by
  rw [endpointAccepted_iff, timeoutAccepted_iff]
  simp only [ofEnvironment_eq_ok_iff]
  constructor
  · rintro ⟨config, he, ht, -⟩
    exact ⟨⟨_, he⟩, ⟨_, ht⟩⟩
  · rintro ⟨⟨url, he⟩, ⟨d, ht⟩⟩
    exact ⟨⟨url, _, d, _⟩, he, ht, rfl, rfl⟩

/-- A configuration is read exactly if the endpoint and the timeout are accepted,
    and then each of its fields follows its own variable.  Of two faults that of
    the endpoint is reported.  Only three variables are looked at. -/
theorem ofEnvironment_exact (vars : Variables) :
    ((∃ config, ofEnvironment (.ofVariables vars) = .ok config) ↔
      EndpointAccepted vars ∧ TimeoutAccepted vars) ∧
    (∀ config, ofEnvironment (.ofVariables vars) = .ok config ↔
      Describes vars config) ∧
    (∀ fault, ofEnvironment (.ofVariables vars) = .error fault ↔
      (∃ text cause, Holds vars endpointVariable text ∧ Url.parse text = .error cause ∧
        fault = .invalidEndpoint cause) ∨
      EndpointAccepted vars ∧ ∃ text cause, Holds vars timeoutVariable text ∧
        readMillis (Text.trim text.toList) = .error cause ∧ fault = .invalidTimeout text cause) ∧
    ∀ others : Variables,
      (∀ name ∈ [endpointVariable, secretVariable, timeoutVariable],
        vars name = others name) →
      ofEnvironment (.ofVariables vars) = ofEnvironment (.ofVariables others) := by
  refine ⟨exists_config_iff, fun config => describes_iff.symm, fun fault => ?_, ?_⟩
  · rw [ofEnvironment_eq_error_iff, endpointOf_eq_error_iff, timeoutOf_eq_error_iff,
      endpointAccepted_iff]
  · intro others h
    obtain ⟨he, hs, ht⟩ : vars endpointVariable = others endpointVariable ∧
        vars secretVariable = others secretVariable ∧
        vars timeoutVariable = others timeoutVariable := by
      simpa using h
    simp only [ofEnvironment, endpointOf, timeoutOf, Environment.ofVariables, he, hs, ht]

/-- An environment with the given endpoint and timeout, and a secret that is no text. -/
def sample (endpoint timeout : String) : Variables := fun name =>
  if name = endpointVariable then some endpoint.toUTF8
  else if name = timeoutVariable then some timeout.toUTF8
  else if name = secretVariable then some ⟨#[0xFF]⟩
  else none

/-- The largest timeout with zeros in front, one millisecond more, and two faults. -/
theorem ofEnvironment_exact_limit :
    ofEnvironment (.ofVariables (sample "db:8443" "\u2003+0018446744073709551615\n")) =
      .ok { standard with
        endpoint := { scheme := ['d', 'b'], authority := none, location := .text ['8', '4', '4', '3'] }
        timeout := .ofMillis 18446744073709551615 } ∧
    ofEnvironment (.ofVariables (sample "db:8443" "18446744073709551616")) =
      .error (.invalidTimeout "18446744073709551616" .tooLarge) ∧
    ofEnvironment (.ofVariables (sample "not a url" "soon")) =
      .error (.invalidEndpoint .noScheme) := by
  have hurl : Url.parse "db:8443" =
      .ok { scheme := ['d', 'b'], authority := none, location := .text ['8', '4', '4', '3'] } := by
    decide +kernel
  refine ⟨?_, ?_, ?_⟩
  · obtain ⟨-, hok, -⟩ :=
      ofEnvironment_exact (sample "db:8443" "\u2003+0018446744073709551615\n")
    refine (hok _).mpr ⟨.inl ⟨"db:8443", rfl, hurl⟩, ?_, .inl ⟨_, rfl, ?_⟩, rfl⟩
    · exact .inr ⟨ofVariables_eq_none_iff.mp (by decide), rfl⟩
    · exact ⟨18446744073709551615, ⟨['\u2003'], "+0018446744073709551615".toList, ['\n'],
        by decide, List.all_eq_true.mp (by decide), ['+'], "0018446744073709551615".toList,
        by decide, .inr rfl, by decide, List.all_eq_true.mp (by decide), by decide, by decide⟩,
        Duration.inNanos_ofMillis _⟩
  · obtain ⟨-, -, herror, -⟩ := ofEnvironment_exact (sample "db:8443" "18446744073709551616")
    refine (herror _).mpr (.inr ⟨?_, _, _, rfl, by decide, rfl⟩)
    intro text ht
    cases (ofVariables_eq_some_iff.mpr ht).symm.trans (ofVariables_eq_some_iff.mpr rfl)
    exact ⟨_, hurl⟩
  · obtain ⟨-, -, herror, -⟩ := ofEnvironment_exact (sample "not a url" "soon")
    exact (herror _).mpr (.inl ⟨"not a url", _, rfl, by decide +kernel, rfl⟩)

end Config

end QueryWire
