/-
**Which passwords the log of a connection hides.**

A URL is logged with three stars in place of all that stands between its first `://` and the last
`@` after it.  A password in the user information stands there, whatever characters it has.  The
password for a socket in the file system is a parameter of the query: it is hidden only where an
`@` happens to come after it, and otherwise any two passwords of ordinary characters are told apart
by the log.  The same holds of a password that has no `://` before it, because the grammar of URLs
passes over tabs and line ends and one of these may stand in between.

Main definitions:

* `DataTier.RedisUrl.shown` — the text that is logged for a URL;
* `DataTier.RedisUrl.Separated` — `://` stands in a text;
* `DataTier.RedisUrl.Ordinary` — passwords that touch neither `://` nor `@`;
* `DataTier.RedisUrl.everywhere` — a network where a server answers everywhere.

Main results:

* `DataTier.RedisUrl.shownChars_eq` — what is logged, by what stands before and after the first
  `://`;
* `DataTier.RedisUrl.shownChars_of_hidden` — what is logged does not depend on a hidden password;
* `DataTier.RedisUrl.shownChars_inj` — what is logged determines any other one;
* `DataTier.RedisUrl.exists_of_normalizeChars` — the end of an accepted URL is one of the given URL;
* `DataTier.RedisUrl.redaction_hides_exactly` — **which passwords the log of a connection hides**;
* `DataTier.RedisUrl.logs_pass_parameter` — two passwords that are logged.
-/

import DataTier.Cache.Connect
import DataTier.Proofs.Url.Places

set_option relaxedAutoImplicit false
set_option autoImplicit false

namespace DataTier.RedisUrl

/-! ### The first `://` and the last `@` -/

/-- What ends a scheme. -/
abbrev separator : List Char := [':', '/', '/']

/-- The end of a scheme stands in a text. -/
def Separated (cs : List Char) : Prop := separator <:+: cs

theorem splitScheme?_separator (rest : List Char) :
    splitScheme? (separator ++ rest) = some ([], rest) := rfl

theorem splitScheme?_cons {c : Char} {cs : List Char} (h : ¬separator <+: c :: cs) :
    splitScheme? (c :: cs) = (splitScheme? cs).map fun (scheme, rest) => (c :: scheme, rest) := by
  rw [splitScheme?]
  rintro rest rfl rfl
  exact h ⟨rest, rfl⟩

/-- A text is put together again from what stands before and after its first `://`. -/
theorem eq_of_splitScheme? {cs scheme rest : List Char}
    (h : splitScheme? cs = some (scheme, rest)) : cs = scheme ++ separator ++ rest := by
  induction cs generalizing scheme with
  | nil => cases h
  | cons c cs ih =>
      by_cases hprefix : separator <+: c :: cs
      · obtain ⟨rest', hrest'⟩ := hprefix
        rw [← hrest', splitScheme?_separator, Option.some.injEq, Prod.mk.injEq] at h
        obtain ⟨rfl, rfl⟩ := h
        exact hrest'.symm
      · rw [splitScheme?_cons hprefix, Option.map_eq_some_iff] at h
        obtain ⟨⟨scheme', rest'⟩, hsplit, heq⟩ := h
        obtain ⟨rfl, rfl⟩ := Prod.mk.inj heq
        rw [ih hsplit]
        rfl

/-- More text at the end does not move the first `://`. -/
theorem splitScheme?_append {cs scheme rest : List Char}
    (h : splitScheme? cs = some (scheme, rest)) (more : List Char) :
    splitScheme? (cs ++ more) = some (scheme, rest ++ more) := by
  induction cs generalizing scheme with
  | nil => cases h
  | cons c cs ih =>
      by_cases hprefix : separator <+: c :: cs
      · obtain ⟨rest', hrest'⟩ := hprefix
        rw [← hrest', splitScheme?_separator, Option.some.injEq, Prod.mk.injEq] at h
        obtain ⟨rfl, rfl⟩ := h
        rw [← hrest', List.append_assoc, splitScheme?_separator]
      · rw [splitScheme?_cons hprefix, Option.map_eq_some_iff] at h
        obtain ⟨⟨scheme', rest'⟩, hsplit, heq⟩ := h
        obtain ⟨rfl, rfl⟩ := Prod.mk.inj heq
        have hlater : ¬separator <+: c :: (cs ++ more) := by
          intro hbegins
          -- It would begin in the part that has one already.
          have hcs := eq_of_splitScheme? hsplit
          have hlength : separator.length ≤ (c :: cs).length := by
            simp only [hcs, List.length_cons, List.length_append, List.length_nil]
            omega
          rw [← List.cons_append] at hbegins
          exact hprefix (List.prefix_of_prefix_length_le hbegins (List.prefix_append _ _) hlength)
        rw [List.cons_append, splitScheme?_cons hlater, ih hsplit]
        rfl

/-- Before the first colon there is no `://`. -/
theorem splitScheme?_append_of_not_mem {cs : List Char} (h : ':' ∉ cs) (post : List Char) :
    splitScheme? (cs ++ post) =
      (splitScheme? post).map fun (scheme, rest) => (cs ++ scheme, rest) := by
  induction cs with
  | nil => simp
  | cons c cs ih =>
      simp only [List.mem_cons, not_or] at h
      obtain ⟨hc, hcs⟩ := h
      have hbegin : ¬separator <+: c :: (cs ++ post) := by
        rintro ⟨more, hmore⟩
        exact hc (List.cons.inj hmore).1
      rw [List.cons_append, splitScheme?_cons hbegin, ih hcs, Option.map_map]
      rfl

theorem splitScheme?_of_not_mem {scheme : List Char} (h : ':' ∉ scheme) (rest : List Char) :
    splitScheme? (scheme ++ separator ++ rest) = some (scheme, rest) := by
  rw [List.append_assoc, splitScheme?_append_of_not_mem h, splitScheme?_separator]
  simp only [Option.map_some, List.append_nil]

theorem splitScheme?_eq_none_iff {cs : List Char} : splitScheme? cs = none ↔ ¬Separated cs := by
  constructor
  · rintro hnone ⟨before, after, hcs⟩
    induction before generalizing cs with
    | nil =>
        rw [← hcs, List.nil_append, splitScheme?_separator] at hnone
        cases hnone
    | cons c before ih =>
        subst hcs
        by_cases hprefix : separator <+: c :: (before ++ separator ++ after)
        · obtain ⟨rest, hrest⟩ := hprefix
          rw [List.cons_append, List.cons_append, ← hrest, splitScheme?_separator] at hnone
          cases hnone
        · rw [List.cons_append, List.cons_append, splitScheme?_cons hprefix,
            Option.map_eq_none_iff] at hnone
          exact ih hnone rfl
  · intro hseparated
    cases hsplit : splitScheme? cs with
    | none => rfl
    | some parts =>
        obtain ⟨scheme, rest⟩ := parts
        exact absurd ⟨scheme, rest, (eq_of_splitScheme? hsplit).symm⟩ hseparated

theorem exists_splitScheme? {cs : List Char} (h : Separated cs) :
    ∃ scheme rest, splitScheme? cs = some (scheme, rest) := by
  cases hsplit : splitScheme? cs with
  | none => exact absurd h (splitScheme?_eq_none_iff.1 hsplit)
  | some parts => exact ⟨parts.1, parts.2, rfl⟩

theorem afterLastAt?_eq_none_iff {cs : List Char} : afterLastAt? cs = none ↔ '@' ∉ cs := by
  induction cs with
  | nil => simp [afterLastAt?]
  | cons c cs ih =>
      rw [afterLastAt?, List.mem_cons, not_or, ← ih]
      cases afterLastAt? cs with
      | none => simp [eq_comm]
      | some host => simp

/-- The last `@` of two texts is that of the second one, if it has any. -/
theorem afterLastAt?_append (cs more : List Char) :
    afterLastAt? (cs ++ more) =
      (afterLastAt? more).or ((afterLastAt? cs).map (· ++ more)) := by
  induction cs with
  | nil => simp [afterLastAt?]
  | cons c cs ih =>
      rw [List.cons_append, afterLastAt?, afterLastAt?, ih]
      cases afterLastAt? more with
      | some host => rfl
      | none =>
          cases afterLastAt? cs with
          | some host => rfl
          | none => by_cases hc : c = '@' <;> simp [hc]

/-! ### What is logged -/

/-- The characters that are logged for a URL. -/
def shownChars (url : List Char) : List Char := redactChars (normalizeChars url)

/-- The text that is logged for a URL. -/
def shown (url : String) : String := redact (normalize url)

theorem shown_ofList (url : List Char) :
    shown (String.ofList url) = String.ofList (shownChars url) := by
  simp [shown, redact, normalize, shownChars]

/-- The Redis scheme for a Valkey scheme. -/
def renamed (scheme : List Char) : List Char :=
  if scheme = "valkeys".toList then "rediss".toList
  else if scheme = "valkey".toList then "redis".toList
  else scheme

/-- What is logged of the part after the scheme. -/
def masked (rest : List Char) : List Char :=
  match afterLastAt? rest with
  | none => rest
  | some host => "***@".toList ++ host

theorem isPrefixOf_iff_of_splitScheme? {cs scheme rest : List Char} (name : List Char)
    (hname : ':' ∉ name) (h : splitScheme? cs = some (scheme, rest)) :
    (name ++ separator).isPrefixOf cs = true ↔ scheme = name := by
  rw [List.isPrefixOf_iff_prefix]
  constructor
  · rintro ⟨more, rfl⟩
    rw [splitScheme?_of_not_mem hname, Option.some.injEq, Prod.mk.injEq] at h
    exact h.1.symm
  · rintro rfl
    exact ⟨rest, (eq_of_splitScheme? h).symm⟩

/-- A URL keeps its text but for the name of its scheme. -/
theorem normalizeChars_of_splitScheme? {url scheme rest : List Char}
    (h : splitScheme? url = some (scheme, rest)) :
    normalizeChars url = renamed scheme ++ separator ++ rest := by
  have hurl := eq_of_splitScheme? h
  have hlong := isPrefixOf_iff_of_splitScheme? "valkeys".toList (by decide) h
  have hshort := isPrefixOf_iff_of_splitScheme? "valkey".toList (by decide) h
  have hvalkeys : "valkeys://".toList = "valkeys".toList ++ separator := by decide
  have hvalkey : "valkey://".toList = "valkey".toList ++ separator := by decide
  have hrediss : "rediss://".toList = "rediss".toList ++ separator := by decide
  have hredis : "redis://".toList = "redis".toList ++ separator := by decide
  rw [normalizeChars, Chars.strip?, Chars.strip?, hvalkeys, hvalkey, hrediss, hredis, renamed]
  by_cases hs : scheme = "valkeys".toList
  · rw [if_pos (hlong.2 hs), if_pos hs]
    simp only
    rw [hurl, hs, List.drop_left]
  · rw [if_neg (hs ∘ hlong.1), if_neg hs]
    simp only
    by_cases hv : scheme = "valkey".toList
    · rw [if_pos (hshort.2 hv), if_pos hv]
      simp only
      rw [hurl, hv, List.drop_left]
    · rw [if_neg (hv ∘ hshort.1), if_neg hv]
      exact hurl

theorem normalizeChars_of_none {url : List Char} (h : splitScheme? url = none) :
    normalizeChars url = url := by
  have hnot : ∀ name : List Char, (name ++ separator).isPrefixOf url = false := by
    intro name
    rw [← Bool.not_eq_true, List.isPrefixOf_iff_prefix]
    rintro ⟨more, hmore⟩
    exact splitScheme?_eq_none_iff.1 h ⟨name, more, hmore⟩
  have hvalkeys : "valkeys://".toList = "valkeys".toList ++ separator := by decide
  have hvalkey : "valkey://".toList = "valkey".toList ++ separator := by decide
  rw [normalizeChars, Chars.strip?, Chars.strip?, hvalkeys, hvalkey, hnot, hnot]
  rfl

/-- The first `://` of a URL stays where it is when its scheme is renamed. -/
theorem splitScheme?_renamed {url scheme rest : List Char}
    (h : splitScheme? url = some (scheme, rest)) :
    splitScheme? (renamed scheme ++ separator ++ rest) = some (renamed scheme, rest) := by
  unfold renamed
  split
  · exact splitScheme?_of_not_mem (by decide) rest
  · split
    · exact splitScheme?_of_not_mem (by decide) rest
    · rw [← eq_of_splitScheme? h, h]

/-- **What is logged for a URL**, by what stands before and after its first `://`. -/
theorem shownChars_eq (url : List Char) :
    shownChars url =
      match splitScheme? url with
      | none => url
      | some (scheme, rest) => renamed scheme ++ separator ++ masked rest := by
  cases hsplit : splitScheme? url with
  | none => rw [shownChars, normalizeChars_of_none hsplit, redactChars, hsplit]
  | some parts =>
      obtain ⟨scheme, rest⟩ := parts
      rw [shownChars, normalizeChars_of_splitScheme? hsplit, redactChars,
        splitScheme?_renamed hsplit]
      have hstars : "://***@".toList = separator ++ "***@".toList := by decide
      cases hat : afterLastAt? rest with
      | none => simp only [hat, masked]
      | some host => simp only [hat, masked, hstars, List.append_assoc]

/-! ### Passwords that are hidden -/

/-- What stands before the last `@` is not logged. -/
theorem masked_append_of_mem {post : List Char} (hat : '@' ∈ post) (pre : List Char) :
    masked (pre ++ post) = masked post := by
  rw [masked, masked, afterLastAt?_append]
  cases hpost : afterLastAt? post with
  | none => exact absurd hat (afterLastAt?_eq_none_iff.1 hpost)
  | some host => rfl

/-- **Between `://` and an `@` nothing is logged.** -/
theorem shownChars_of_hidden {pre post : List Char} (hpre : Separated pre) (hat : '@' ∈ post)
    (p q : List Char) : shownChars (pre ++ p ++ post) = shownChars (pre ++ q ++ post) := by
  obtain ⟨scheme, rest, hsplit⟩ := exists_splitScheme? hpre
  rw [shownChars_eq, shownChars_eq, List.append_assoc, List.append_assoc,
    splitScheme?_append hsplit, splitScheme?_append hsplit]
  simp only
  rw [← List.append_assoc, masked_append_of_mem hat, ← List.append_assoc,
    masked_append_of_mem hat]

/-! ### Passwords that are logged -/

/-- A text with characters, none of which has a meaning for what is hidden. -/
structure Ordinary (p : List Char) : Prop where
  ne_nil : p ≠ []
  not_colon : ':' ∉ p
  not_slash : '/' ∉ p
  not_at : '@' ∉ p

/-- What stands after the last `@` is logged, and all if there is none. -/
theorem exists_masked_append (cs : List Char) :
    ∃ start, ∀ post, '@' ∉ post → masked (cs ++ post) = start ++ post := by
  cases hcs : afterLastAt? cs with
  | none =>
      refine ⟨cs, fun post hpost => ?_⟩
      rw [masked, afterLastAt?_append, afterLastAt?_eq_none_iff.2 hpost, hcs]
      rfl
  | some host =>
      refine ⟨"***@".toList ++ host, fun post hpost => ?_⟩
      rw [masked, afterLastAt?_append, afterLastAt?_eq_none_iff.2 hpost, hcs]
      simp

/-- No `://` begins in an ordinary text or reaches into one. -/
theorem splitScheme?_of_ordinary {pre p : List Char} (hpre : ¬Separated pre) (hp : Ordinary p)
    (post : List Char) :
    splitScheme? (pre ++ p ++ post) =
      (splitScheme? post).map fun (scheme, rest) => (pre ++ p ++ scheme, rest) := by
  induction pre with
  | nil => exact splitScheme?_append_of_not_mem hp.not_colon post
  | cons c pre ih =>
      have hrest : ¬Separated pre := fun h => hpre (h.trans (List.suffix_cons c pre).isInfix)
      have hbegin : ¬separator <+: c :: (pre ++ p ++ post) := by
        rintro ⟨more, hmore⟩
        obtain ⟨rfl, htail⟩ := List.cons.inj hmore
        -- The two slashes are in the first part, or one of them is in the ordinary text.
        match pre, htail with
        | [], htail =>
            obtain ⟨d, p, rfl⟩ := List.exists_cons_of_ne_nil hp.ne_nil
            exact hp.not_slash (List.mem_cons.2 (.inl (List.cons.inj htail).1))
        | [d], htail =>
            obtain ⟨e, p, rfl⟩ := List.exists_cons_of_ne_nil hp.ne_nil
            have hslash := (List.cons.inj (List.cons.inj htail).2).1
            exact hp.not_slash (List.mem_cons.2 (.inl hslash))
        | d :: e :: pre, htail =>
            obtain ⟨hd, htail⟩ := List.cons.inj htail
            have he := (List.cons.inj htail).1
            exact hpre ⟨[], pre, by rw [← hd, ← he]; rfl⟩
      rw [List.cons_append, List.cons_append, splitScheme?_cons hbegin, ih hrest, Option.map_map]
      rfl

theorem renamed_of_mem {scheme : List Char} (h : ':' ∈ scheme) : renamed scheme = scheme := by
  have hne : ∀ name : List Char, ':' ∉ name → scheme ≠ name := fun name hname heq => hname (heq ▸ h)
  rw [renamed, if_neg (hne _ (by decide)), if_neg (hne _ (by decide))]

/-- **Where nothing is hidden, what is logged determines the password**: it has no `://` before it,
or no `@` after it. -/
theorem shownChars_inj {pre post p q : List Char} (hcolon : ':' ∈ pre)
    (hopen : ¬(Separated pre ∧ '@' ∈ post)) (hp : Ordinary p) (hq : Ordinary q)
    (h : shownChars (pre ++ p ++ post) = shownChars (pre ++ q ++ post)) : p = q := by
  rw [shownChars_eq, shownChars_eq] at h
  by_cases hpre : Separated pre
  · -- All that comes after the last `@` before the password is logged, the password included.
    have hpost : '@' ∉ post := fun hat => hopen ⟨hpre, hat⟩
    obtain ⟨scheme, rest, hsplit⟩ := exists_splitScheme? hpre
    obtain ⟨start, hstart⟩ := exists_masked_append rest
    have hnone : ∀ r : List Char, Ordinary r → '@' ∉ r ++ post := fun r hr hat =>
      (List.mem_append.1 hat).elim hr.not_at hpost
    rw [List.append_assoc, List.append_assoc, splitScheme?_append hsplit,
      splitScheme?_append hsplit] at h
    simp only [hstart _ (hnone p hp), hstart _ (hnone q hq)] at h
    exact List.append_cancel_right (List.append_cancel_left (List.append_cancel_left h))
  · -- All that comes before the first `://` is logged, and everything if there is none.
    rw [splitScheme?_of_ordinary hpre hp, splitScheme?_of_ordinary hpre hq] at h
    have hrenamed : ∀ r s : List Char, renamed (pre ++ r ++ s) = pre ++ r ++ s := fun r s =>
      renamed_of_mem (List.mem_append_left s (List.mem_append_left r hcolon))
    cases hsplit : splitScheme? post with
    | none =>
        rw [hsplit] at h
        exact List.append_cancel_left (List.append_cancel_right h)
    | some parts =>
        obtain ⟨scheme, rest⟩ := parts
        rw [hsplit] at h
        simp only [Option.map_some, hrenamed] at h
        exact List.append_cancel_left (List.append_cancel_right (List.append_cancel_right
          (List.append_cancel_right h)))

/-! ### The passwords of a connection -/

/-- Text without a colon before a `://` is not part of it. -/
theorem separated_of_append {name cs : List Char} (hname : ':' ∉ name)
    (h : Separated (name ++ cs)) : Separated cs := by
  induction name with
  | nil => exact h
  | cons c name ih =>
      simp only [List.mem_cons, not_or] at hname
      obtain ⟨hc, hname⟩ := hname
      rcases List.infix_cons_iff.1 h with ⟨more, hmore⟩ | h
      · exact absurd (List.cons.inj hmore).1 hc
      · exact ih hname h

/-- Accepting a URL changes at most the name of its scheme, so what comes after a colon is the same
before and afterwards. -/
theorem exists_of_normalizeChars {url before after : List Char}
    (h : normalizeChars url = before ++ after) (hcolon : ':' ∈ before) :
    ∃ start, url = start ++ after ∧ ':' ∈ start ∧ (Separated before → Separated start) := by
  cases hsplit : splitScheme? url with
  | none =>
      rw [normalizeChars_of_none hsplit] at h
      exact ⟨before, h, hcolon, id⟩
  | some parts =>
      obtain ⟨scheme, rest⟩ := parts
      rw [normalizeChars_of_splitScheme? hsplit] at h
      by_cases hsame : renamed scheme = scheme
      · rw [hsame, ← eq_of_splitScheme? hsplit] at h
        exact ⟨before, h, hcolon, id⟩
      · have hname : ':' ∉ renamed scheme := by
          intro hmem
          unfold renamed at hmem hsame
          split at hmem
          · exact absurd hmem (by decide)
          · split at hmem
            · exact absurd hmem (by decide)
            · next hlong hshort =>
              rw [if_neg hlong, if_neg hshort] at hsame
              exact hsame rfl
        rw [List.append_assoc] at h
        rcases List.append_eq_append_iff.1 h with ⟨x, rfl, hrest⟩ | ⟨x, hbefore, -⟩
        · refine ⟨scheme ++ x, ?_, ?_, fun hseparated => ?_⟩
          · rw [eq_of_splitScheme? hsplit, List.append_assoc, hrest, List.append_assoc]
          · exact List.mem_append_right _ ((List.mem_append.1 hcolon).resolve_left hname)
          · exact (separated_of_append hname hseparated).trans (List.suffix_append _ _).isInfix
        · -- The colon would stand within the new name.
          exact absurd (hbefore ▸ List.mem_append_left x hcolon) hname

/-- A new name for the scheme brings neither tabs nor line ends. -/
theorem unbroken_normalizeChars {url : List Char} (h : UrlParts.Unbroken url) :
    UrlParts.Unbroken (normalizeChars url) := by
  cases hsplit : splitScheme? url with
  | none => rwa [normalizeChars_of_none hsplit]
  | some parts =>
      obtain ⟨scheme, rest⟩ := parts
      have hurl := eq_of_splitScheme? hsplit
      rw [hurl, List.append_assoc] at h
      rw [normalizeChars_of_splitScheme? hsplit, List.append_assoc]
      intro c hc
      rcases List.mem_append.1 hc with hname | hrest
      · have hnames : ∀ d ∈ "rediss".toList, d ≠ '\t' ∧ d ≠ '\n' ∧ d ≠ '\r' := by simp
        unfold renamed at hname
        split at hname
        · exact hnames c hname
        · split at hname
          · exact hnames c (List.mem_append_left ['s'] hname)
          · exact h c (List.mem_append_left _ hname)
      · exact h c (List.mem_append_right _ hrest)

/-- A connection is made for a URL that can be taken apart. -/
theorem exists_of_connect {net : Network} {url : String} {link : RedisLink}
    (h : RedisLink.connect net url = .ok link) :
    link.url = normalize url ∧ ∃ u, UrlParts.ofText? link.url = some u := by
  simp only [RedisLink.connect] at h
  split at h
  · cases h
  · next target htarget =>
    split at h
    · cases h
    · next server =>
      obtain rfl := Except.ok.inj h
      refine ⟨rfl, ?_⟩
      rw [RedisTarget.ofUrl] at htarget
      split at htarget
      · cases htarget
      · next u hu => exact ⟨u, hu⟩

/-- The first thing that is logged of a connection is its URL. -/
theorem log_of_connect {net : Network} {url : String} {link : RedisLink} (opTimeout : Duration)
    (hurl : url ≠ memoryUrl) (h : RedisLink.connect net url = .ok link) :
    (Client.connect net url opTimeout).log.head? = some (.redisConnected (shown url)) := by
  have hshown : shown url = redact link.url := by rw [(exists_of_connect h).1, shown]
  rw [hshown, Client.connect, if_neg hurl, h]
  simp only
  split <;> rfl

/-- A network where a server answers everywhere. -/
def everywhere : Network := fun _ => some {}

theorem connect_everywhere (url : String)
    (h : (RedisTarget.ofUrl (normalize url)).isOk = true) :
    RedisLink.connect everywhere url = .ok { url := normalize url, server := {} } := by
  cases htarget : RedisTarget.ofUrl (normalize url) with
  | error fault =>
      rw [htarget] at h
      cases h
  | ok target => simp only [RedisLink.connect, htarget, everywhere]

/-- **Which passwords the log of a connection hides**: with any other one in the place of the user
information's the same is logged, and with another one for the parameter `pass` only if this
happens to stand between a `://` and an `@`. -/
theorem redaction_hides_exactly (net : Network) (url : String) (opTimeout : Duration)
    (link : RedisLink) (hmemory : url ≠ memoryUrl) (hlink : RedisLink.connect net url = .ok link) :
    (Client.connect net url opTimeout).log.head? = some (.redisConnected (shown url)) ∧
    ∃ u, UrlParts.ofText? link.url = some u ∧ (UrlParts.Unbroken url.toList →
      (∀ p, u.password = some p → ∃ pre post, url.toList = pre ++ p ++ post ∧
        ∀ q, shown (.ofList (pre ++ q ++ post)) = shown url) ∧
      (∀ p, RedisTarget.lastOf? "pass" (Percent.query (u.query.getD [])) = some p → p ≠ "" →
        ∃ pre secret post, url.toList = pre ++ secret ++ post ∧ Percent.queryText secret = p ∧
          ∀ q, Ordinary secret → Ordinary q →
            (shown (.ofList (pre ++ q ++ post)) = shown url ↔
              q = secret ∨ (Separated pre ∧ '@' ∈ post)))) := by
  obtain ⟨hnormal, u, hu⟩ := exists_of_connect hlink
  refine ⟨log_of_connect opTimeout hmemory hlink, u, hu, fun hunbroken => ?_⟩
  have hchars : link.url.toList = normalizeChars url.toList := by
    rw [hnormal, normalize, String.toList_ofList]
  have hlinkUnbroken : UrlParts.Unbroken link.url.toList := by
    rw [hchars]
    exact unbroken_normalizeChars hunbroken
  have hshown : ∀ cs, url.toList = cs → shown url = shown (.ofList cs) := by
    rintro cs rfl
    rw [String.ofList_toList]
  refine ⟨fun p hp => ?_, fun p hp hne => ?_⟩
  · obtain ⟨scheme, rest, hplace, -⟩ := UrlParts.exists_password hu hp hlinkUnbroken
    have hbefore : normalizeChars url.toList =
        (scheme ++ separator ++ (u.username ++ [':'])) ++ (p ++ '@' :: rest) := by
      rw [← hchars, hplace]
      simp
    obtain ⟨start, hstart, -, hseparated⟩ := exists_of_normalizeChars hbefore (by simp)
    have hpre : Separated start := hseparated ⟨scheme, u.username ++ [':'], rfl⟩
    rw [← List.append_assoc] at hstart
    refine ⟨start, '@' :: rest, hstart, fun q => ?_⟩
    rw [hshown _ hstart, shown_ofList, shown_ofList,
      shownChars_of_hidden hpre List.mem_cons_self q p]
  · obtain ⟨before, spelled, secret, after, hplace, hcolon, -, hsecret⟩ :=
      UrlParts.exists_parameter hu hp hne hlinkUnbroken
    have hbefore : normalizeChars url.toList =
        (before ++ spelled ++ ['=']) ++ (secret ++ after) := by
      rw [← hchars, hplace]
      simp
    obtain ⟨start, hstart, hstartColon, -⟩ :=
      exists_of_normalizeChars hbefore (by simp [hcolon])
    rw [← List.append_assoc] at hstart
    refine ⟨start, secret, after, hstart, hsecret, fun q hordinary hq => ?_⟩
    rw [hshown _ hstart, shown_ofList, shown_ofList, String.ofList_inj]
    constructor
    · intro heq
      by_cases hopen : Separated start ∧ '@' ∈ after
      · exact .inr hopen
      · exact .inl (shownChars_inj hstartColon hopen hq hordinary heq)
    · rintro (rfl | ⟨hpre, hat⟩)
      · rfl
      · exact shownChars_of_hidden hpre hat q secret

/-- A password of the user information that contains what stands around it. -/
theorem redaction_hides_exactly_of_marks :
    RedisLink.connect everywhere "valkey://user:p@s:s@cache:6379" =
        .ok { url := "redis://user:p@s:s@cache:6379", server := {} } ∧
      (Client.connect everywhere "valkey://user:p@s:s@cache:6379" (.ofSecs 1)).log.head? =
        some (.redisConnected "redis://***@cache:6379") := by
  have hnormal : normalize "valkey://user:p@s:s@cache:6379" = "redis://user:p@s:s@cache:6379" := by
    decide +kernel
  have hconnect := connect_everywhere "valkey://user:p@s:s@cache:6379" (by decide +kernel)
  rw [hnormal] at hconnect
  refine ⟨hconnect, ?_⟩
  rw [(redaction_hides_exactly everywhere _ (.ofSecs 1) _ (by decide) hconnect).1]
  decide +kernel

/-- The passwords of two URLs of a socket, which the log of the connections tells apart. -/
theorem logs_pass_parameter :
    (Client.connect everywhere "unix:///cache?pass=secret" (.ofSecs 1)).log.head? =
        some (.redisConnected "unix:///cache?pass=secret") ∧
      (Client.connect everywhere "unix:///cache?pass=other" (.ofSecs 1)).log.head? =
        some (.redisConnected "unix:///cache?pass=other") := by
  have hlogged : ∀ url, url ≠ memoryUrl → normalize url = url → redact url = url →
      (RedisTarget.ofUrl url).isOk = true →
      (Client.connect everywhere url (.ofSecs 1)).log.head? = some (.redisConnected url) := by
    intro url hmemory hnormal hredact htarget
    have h := log_of_connect (.ofSecs 1) hmemory (connect_everywhere _ (by rw [hnormal, htarget]))
    rwa [shown, hnormal, hredact] at h
  exact ⟨hlogged _ (by decide) (by decide +kernel) (by decide +kernel) (by decide +kernel),
    hlogged _ (by decide) (by decide +kernel) (by decide +kernel) (by decide +kernel)⟩

end DataTier.RedisUrl
