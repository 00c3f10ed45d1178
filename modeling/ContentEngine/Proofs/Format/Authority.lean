import ContentEngine.Format.Url
import ContentEngine.Proofs.Number
import ContentEngine.Proofs.Text.Blank
import ContentEngine.Proofs.Url.Authority

/-!
# Canonical authorities

A canonical authority is written from a user, a password, a host and a port (`Authority.text`).
When it is read again, and found sound, it gives the same text once more
(`Authority.IsCanonical.canonicalAuthority_eq`): the host is found between its brackets or before
the port, and a port that is left out as the usual one stays out.
-/

namespace ContentEngine

namespace Format

variable {scheme authority : List Char}

/-! ### Ports -/

theorem le_of_readPort {text : List Char} {n : Nat} (h : Url.readPort text = .ok (some n)) :
    n ≤ 65535 := by
  rw [Url.readPort] at h
  split at h
  · simp at h
  · split at h
    · next hport =>
      obtain rfl : digitsValue text = n := by simpa using h
      exact hport.2.2
    · simp at h

/-- What is written of a port are digits that are read as a port that is written the same way. -/
theorem exists_portText (scheme : List Char) {port : Option Nat}
    (hport : ∀ n, port = some n → n ≤ 65535) :
    ∃ digits, portText scheme port = Url.delimited ':' digits ∧
      (∀ c ∈ digits, isAsciiDigit c = true) ∧
      ∃ again, Url.readPort digits = .ok again ∧ portText scheme again = portText scheme port := by
  have hnone : ∃ again, Url.readPort [] = .ok again ∧ portText scheme again = [] :=
    ⟨none, rfl, rfl⟩
  cases port with
  | none => exact ⟨[], rfl, by simp, hnone⟩
  | some n =>
    by_cases husual : usualPort? scheme = some n
    · have htext : portText scheme (some n) = [] := if_pos husual
      rw [htext]
      exact ⟨[], rfl, by simp, hnone⟩
    · have htext : portText scheme (some n) = ':' :: digitText n := if_neg husual
      have hne : (digitText n).isEmpty = false := by simpa using digitText_ne_nil n
      have hdigits : (digitText n).all isAsciiDigit = true :=
        List.all_eq_true.mpr fun c hc => isAsciiDigit_of_mem_digitText hc
      refine ⟨digitText n, ?_, fun c hc => isAsciiDigit_of_mem_digitText hc, some n, ?_, rfl⟩
      · rw [htext, Url.delimited, if_neg (by simp [hne])]
      · have hle : digitsValue (digitText n) ≤ 65535 := by
          rw [digitsValue_digitText]
          exact hport n rfl
        have hlength : (digitText n).length ≤ 5 :=
          (Nat.length_toDigits_le_iff (by decide) (by decide)).mpr
            ((hport n rfl).trans_lt (by decide))
        have hshort : (digitText n).length ≤ maxIntegerDigits := hlength.trans (by decide)
        rw [Url.readPort, if_neg (by simp [hne]), if_pos ⟨hdigits, hshort, hle⟩,
          digitsValue_digitText]

/-- A port holds no character but its colon and digits. -/
theorem eq_of_mem_portText {port : Option Nat} {c : Char} (h : c ∈ portText scheme port) :
    c = ':' ∨ isAsciiDigit c = true := by
  cases port with
  | none => simp [portText] at h
  | some n =>
    rw [portText] at h
    split at h
    · simp at h
    · rcases List.mem_cons.mp h with rfl | h
      · exact .inl rfl
      · exact .inr (isAsciiDigit_of_mem_digitText h)

/-! ### Authorities -/

/-- The parts of an authority. -/
structure Authority where
  user : List Char
  password : List Char
  host : List Char
  port : Option Nat

namespace Authority

/-- The text of an authority. -/
def text (scheme : List Char) (a : Authority) : List Char :=
  userText a.user a.password ++ (shownHost a.host ++ portText scheme a.port)

/-- Whether the parts are such as a canonical authority has. -/
structure IsCanonical (a : Authority) : Prop where
  user_colon : ':' ∉ a.user
  host_ne : a.host ≠ []
  host_lower : IsLower a.host
  isHost : Url.IsHost a.host
  port_le : ∀ n, a.port = some n → n ≤ 65535

/-- The parts that are read off an authority. -/
def read (authority : List Char) (port : Option Nat) : Authority :=
  ⟨(Url.userPassword authority).1, (Url.userPassword authority).2,
    lower (Url.hostPort authority).1, port⟩

theorem canonicalAuthority_eq_text (scheme authority : List Char) (port : Option Nat) :
    canonicalAuthority scheme authority port = (read authority port).text scheme := by
  simp [canonicalAuthority, text, read]

theorem isCanonical_read (hsound : Url.isSoundAuthority authority = true)
    (hhost : (Url.hostPort authority).1 ≠ []) {port : Option Nat}
    (hport : Url.readPort (Url.hostPort authority).2 = .ok port) :
    (read authority port).IsCanonical where
  user_colon := by
    rw [read, Url.userPassword]
    split
    · exact Url.not_mem_cutAtFirst ':' _
    · simp
  host_ne := fun hnil => hhost (lower_eq_nil_iff.mp hnil)
  host_lower := isLower_lower _
  isHost := (Url.isHost_hostPort hsound).lower
  port_le := fun n (hn : port = some n) => le_of_readPort (hn ▸ hport)

variable {a : Authority}

theorem no_at_place (h : a.IsCanonical) :
    '@' ∉ shownHost a.host ++ portText scheme a.port := by
  intro hmem
  rcases List.mem_append.mp hmem with hhost | hport
  · rw [shownHost] at hhost
    split at hhost
    · refine h.isHost.no_at ?_
      simpa using hhost
    · exact h.isHost.no_at hhost
  · rcases eq_of_mem_portText hport with hcolon | hdigit
    · contradiction
    · exact absurd hdigit (by decide)

theorem placeOf_text (h : a.IsCanonical) :
    Url.placeOf (a.text scheme) = shownHost a.host ++ portText scheme a.port := by
  rw [text, userText]
  split
  · exact Url.placeOf_of_not_mem (no_at_place h)
  · rw [List.append_assoc, List.append_assoc, List.singleton_append, ← List.append_assoc]
    exact Url.placeOf_append _ (no_at_place h)

/-- The user and the password are found again. Without a user there is no password either. -/
theorem userText_userPassword_text (h : a.IsCanonical) :
    userText (Url.userPassword (a.text scheme)).1 (Url.userPassword (a.text scheme)).2 =
      userText a.user a.password := by
  by_cases huser : a.user.isEmpty = true
  · have htext : a.text scheme = shownHost a.host ++ portText scheme a.port := by
      rw [text, userText, if_pos huser, List.nil_append]
    have hnone : userText a.user a.password = [] := if_pos huser
    rw [htext, Url.userPassword, cutAtLast?_of_not_mem (no_at_place h), hnone]
    rfl
  · have htext : a.text scheme = (a.user ++ Url.delimited ':' a.password) ++
        '@' :: (shownHost a.host ++ portText scheme a.port) := by
      rw [text, userText, if_neg huser]
      simp
    obtain ⟨huser, hpassword⟩ := Url.cutAtFirst_delimited h.user_colon a.password
    rw [htext, Url.userPassword, cutAtLast?_append _ (no_at_place h)]
    simp only [huser, hpassword]

/-- A host with a bracket, but without a colon, does not make a sound authority. -/
theorem no_open_of_isSoundAuthority (h : a.IsCanonical) (hcolon : ':' ∉ a.host)
    (hsound : Url.isSoundAuthority (a.text scheme) = true) : '[' ∉ a.host := by
  intro hopen
  have hshown : shownHost a.host = a.host := if_neg (by simpa using hcolon)
  have hmem : '[' ∈ a.text scheme :=
    List.mem_append_right _ (List.mem_append_left _ (hshown.symm ▸ hopen))
  have hnumeric := Url.hasNumericHost_of_isSoundAuthority hsound hmem
  rw [placeOf_text h, hshown] at hnumeric
  rcases not_mem_or_exists_first '[' a.host with hnot | ⟨before, after, hnot, hhost⟩
  · exact hnot hopen
  · -- the host does not start with the bracket, so that something stands before it
    have hbefore : before ≠ [] := by
      rintro rfl
      exact h.isHost.no_open (by rw [hhost]; rfl)
    rw [hhost, List.append_assoc, List.cons_append, Url.hasNumericHost,
      cutAtFirst_append hnot] at hnumeric
    simp [hbefore] at hnumeric

theorem hostPort_text (h : a.IsCanonical) (hsound : Url.isSoundAuthority (a.text scheme) = true)
    {digits : List Char} (hdigits : portText scheme a.port = Url.delimited ':' digits)
    (hascii : ∀ c ∈ digits, isAsciiDigit c = true) :
    Url.hostPort (a.text scheme) = (a.host, digits) := by
  rw [Url.hostPort, placeOf_text h, hdigits]
  -- a host with a colon stands in brackets, and one without holds none
  by_cases hcolon : ':' ∈ a.host
  · have hplace : shownHost a.host ++ Url.delimited ':' digits =
        [] ++ '[' :: (a.host ++ ']' :: Url.delimited ':' digits) := by
      rw [shownHost, if_pos (by simpa using hcolon)]
      simp
    obtain ⟨-, hport⟩ := Url.cutAtFirst_delimited (List.not_mem_nil (a := ':')) digits
    rw [List.nil_append] at hport
    rw [hplace, cutAtFirst_append (by simp)]
    simp only [cutAtFirst_append (h.isHost.no_close hcolon), Option.getD_some, hport]
  · have hopen := no_open_of_isSoundAuthority h hcolon hsound
    have hshown : shownHost a.host = a.host := if_neg (by simpa using hcolon)
    have hplace : '[' ∉ a.host ++ Url.delimited ':' digits := by
      intro hmem
      rcases List.mem_append.mp hmem with hmem | hmem
      · exact hopen hmem
      · rw [Url.delimited] at hmem
        split at hmem
        · simp at hmem
        · rcases List.mem_cons.mp hmem with heq | hmem
          · contradiction
          · exact absurd (hascii _ hmem) (by decide)
    obtain ⟨hhost, hport⟩ := Url.cutAtFirst_delimited hcolon digits
    rw [hshown, cutAtFirst_of_not_mem hplace]
    simp only [hhost, hport]

/-- A canonical authority that is sound is read as what it has been written from. -/
theorem IsCanonical.canonicalAuthority_eq (h : a.IsCanonical)
    (hsound : Url.isSoundAuthority (a.text scheme) = true) :
    (Url.hostPort (a.text scheme)).1 ≠ [] ∧
      ∃ port, Url.readPort (Url.hostPort (a.text scheme)).2 = .ok port ∧
        canonicalAuthority scheme (a.text scheme) port = a.text scheme := by
  obtain ⟨digits, hdigits, hascii, again, hread, hagain⟩ := exists_portText scheme h.port_le
  have hhostPort := hostPort_text h hsound hdigits hascii
  refine ⟨by rw [hhostPort]; exact h.host_ne, again, by rw [hhostPort]; exact hread, ?_⟩
  calc canonicalAuthority scheme (a.text scheme) again
    _ = userText (Url.userPassword (a.text scheme)).1 (Url.userPassword (a.text scheme)).2 ++
        (shownHost (lower (Url.hostPort (a.text scheme)).1) ++ portText scheme again) :=
      canonicalAuthority_eq_text scheme _ again
    _ = a.text scheme := by
      rw [userText_userPassword_text h, hhostPort, h.host_lower.lower_eq, hagain]
      rfl

theorem isBlank_of_mem_portText {port : Option Nat} {c : Char} (h : c ∈ portText scheme port) :
    isBlank c = false := by
  rcases eq_of_mem_portText h with rfl | hdigit
  · decide
  · exact Url.isBlank_of_isSchemeChar (by simp [Url.isSchemeChar, hdigit])

/-- Of a canonical authority that ends in blanks, it is the host that does. -/
theorem exists_host_of_text_append {kept dropped : List Char}
    (htext : a.text scheme = kept ++ dropped) (hne : dropped ≠ [])
    (hblank : ∀ c ∈ dropped, isBlank c = true) :
    ∃ host, a.host = host ++ dropped ∧ ':' ∉ a.host ∧
      kept = userText a.user a.password ++ host := by
  rw [text, ← List.append_assoc] at htext
  have hport : portText scheme a.port = [] :=
    eq_nil_of_append_eq htext hne hblank fun c hc =>
      isBlank_of_mem_portText (List.mem_of_getLast? hc)
  rw [hport, List.append_nil] at htext
  have hcolon : ':' ∉ a.host := by
    intro hmem
    have hshown : shownHost a.host = '[' :: (a.host ++ [']']) := if_pos (by simpa using hmem)
    have hnil : shownHost a.host = [] := by
      refine eq_nil_of_append_eq htext hne hblank fun c hc => ?_
      rw [hshown, ← List.cons_append, List.getLast?_concat] at hc
      obtain rfl := Option.some.inj hc
      decide
    rw [hshown] at hnil
    contradiction
  have hshown : shownHost a.host = a.host := if_neg (by simpa using hcolon)
  rw [hshown] at htext
  obtain ⟨host, hkept, hhost⟩ := exists_append_of_append_eq htext hblank fun c hc => by
    rw [userText] at hc
    split at hc
    · simp at hc
    · rw [List.getLast?_concat] at hc
      obtain rfl := Option.some.inj hc
      decide
  exact ⟨host, hhost, hcolon, hkept⟩

/-- Without the blanks at its end, a canonical authority has no host or is canonical again. -/
theorem hostPort_eq_nil_or_exists (h : a.IsCanonical) {kept dropped : List Char}
    (htext : a.text scheme = kept ++ dropped) (hne : dropped ≠ [])
    (hblank : ∀ c ∈ dropped, isBlank c = true) :
    (Url.hostPort kept).1 = [] ∨ ∃ b : Authority, b.IsCanonical ∧ b.text scheme = kept := by
  obtain ⟨host, hhost, hcolon, rfl⟩ := exists_host_of_text_append htext hne hblank
  rcases host with _ | ⟨c, rest⟩
  · -- nothing is left of the host
    left
    have hplace : Url.placeOf (userText a.user a.password ++ []) = [] := by
      rw [List.append_nil, userText]
      split
      · rfl
      · exact Url.placeOf_append _ List.not_mem_nil
    rw [Url.hostPort, hplace]
    rfl
  · -- what is left of the host stands without a port
    right
    have hmem {d : Char} (hd : d ∈ c :: rest) : d ∈ a.host := hhost ▸ List.mem_append_left _ hd
    have hnocolon : ':' ∉ c :: rest := fun hd => hcolon (hmem hd)
    refine ⟨⟨a.user, a.password, c :: rest, none⟩, ?_, ?_⟩
    · refine ⟨h.user_colon, List.cons_ne_nil c rest, fun d hd => h.host_lower d (hmem hd), ?_,
        by simp⟩
      refine ⟨fun hd => h.isHost.no_at (hmem hd), fun hd => absurd hd hnocolon, fun hhead => ?_⟩
      refine h.isHost.no_open ?_
      rw [hhost, List.cons_append, List.head?_cons]
      exact hhead
    · have hshown : shownHost (c :: rest) = c :: rest := if_neg (by simpa using hnocolon)
      simp [text, hshown, portText]

/-- The user and the password are part of the authority. -/
theorem mem_of_mem_userText {c : Char}
    (h : c ∈ userText (Url.userPassword authority).1 (Url.userPassword authority).2)
    (hat : c ≠ '@') : c ∈ authority := by
  rcases not_mem_or_exists_last '@' authority with hnot | ⟨before, after, hnot, rfl⟩
  · rw [Url.userPassword, cutAtLast?_of_not_mem hnot] at h
    simp [userText] at h
  · refine List.mem_append_left _ ((Url.delimited_cutAtFirst_sublist ':' before).mem ?_)
    have hread : Url.userPassword (before ++ '@' :: after) =
        ((cutAtFirst ':' before).1, (cutAtFirst ':' before).2.getD []) := by
      rw [Url.userPassword, cutAtLast?_append before hnot]
    rw [hread, userText] at h
    split at h
    · simp at h
    · rcases List.mem_append.mp h with h | h
      · exact h
      · exact absurd (List.mem_singleton.mp h) hat

/-- The host is part of the authority. -/
theorem mem_of_mem_hostPort {c : Char} (h : c ∈ (Url.hostPort authority).1) : c ∈ authority := by
  refine Url.mem_of_mem_placeOf ?_
  rcases not_mem_or_exists_first '[' (Url.placeOf authority) with
    hnot | ⟨before, after, hnot, hplace⟩
  · rw [Url.hostPort, cutAtFirst_of_not_mem hnot] at h
    exact Url.mem_of_mem_cutAtFirst h
  · rw [Url.hostPort, hplace, cutAtFirst_append hnot] at h
    rw [hplace]
    exact List.mem_append_right _ (List.mem_cons_of_mem _ (Url.mem_of_mem_cutAtFirst h))

/-- Of the characters without case, only delimiters and digits are new in a canonical authority. -/
theorem mem_of_mem_canonicalAuthority {port : Option Nat} {c : Char}
    (h : c ∈ canonicalAuthority scheme authority port) (hcase : isCaseless c = true)
    (hnew : c ∉ ['@', ':', '[', ']']) (hdigit : isAsciiDigit c = false) : c ∈ authority := by
  simp only [List.mem_cons, List.not_mem_nil, or_false, not_or] at hnew
  obtain ⟨hat, hcolon, hopen, hclose⟩ := hnew
  rw [canonicalAuthority_eq_text, text, List.mem_append, List.mem_append] at h
  rcases h with huser | hhost | hport
  · exact mem_of_mem_userText huser hat
  · refine mem_of_mem_hostPort (mem_of_mem_lower ?_ hcase)
    rw [shownHost] at hhost
    split at hhost
    · have hmem : c ∈ (read authority port).host := by simpa [hopen, hclose] using hhost
      exact hmem
    · exact hhost
  · rcases eq_of_mem_portText hport with heq | htrue
    · exact absurd heq hcolon
    · rw [hdigit] at htrue
      contradiction

end Authority

end Format

end ContentEngine
