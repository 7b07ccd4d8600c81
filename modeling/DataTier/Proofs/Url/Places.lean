/-
**Where the parts of a URL stand in its text.**

A URL is taken apart from the outside inwards, and every step cuts its text in two.  So each part
is a stretch of the text, between what was cut off before it and what was cut off after it.  Tabs
and line ends are dropped beforehand; the texts looked at here have none.

Main definition:

* `DataTier.UrlParts.Unbroken` — a text without tabs and line ends.

Main results:

* `DataTier.UrlParts.exists_password` — **where the password of the user information stands**;
* `DataTier.UrlParts.exists_parameter` — **where the value of a parameter stands**.
-/

import DataTier.Proofs.Text.Chars
import DataTier.Redis.Target

set_option relaxedAutoImplicit false
set_option autoImplicit false

namespace DataTier

namespace UrlParts

/-- Neither tabs nor line ends stand in a text. -/
def Unbroken (cs : List Char) : Prop := ∀ c ∈ cs, c ≠ '\t' ∧ c ≠ '\n' ∧ c ≠ '\r'

/-- A text without tabs and line ends loses only blanks at both its ends. -/
theorem exists_clean {cs : List Char} (h : Unbroken cs) :
    ∃ lead trail, cs = lead ++ clean cs ++ trail ∧ ':' ∉ lead := by
  obtain ⟨lead, trail, hcs, hlead, -⟩ := Chars.exists_trim (fun c => decide (c.toNat ≤ 0x20)) cs
  have hkept : clean cs = Chars.trim (fun c => decide (c.toNat ≤ 0x20)) cs := by
    refine List.filter_eq_self.2 fun c hc => decide_eq_true (h c ?_)
    rw [hcs]
    exact List.mem_append_left _ (List.mem_append_right _ hc)
  refine ⟨lead, trail, by rw [hkept]; exact hcs, fun hcolon => ?_⟩
  have hblank := hlead ':' hcolon
  exact absurd hblank (by decide)

/-- The scheme of a URL stands before its first colon. -/
theorem eq_of_scheme? {cs scheme rest : List Char} (h : scheme? cs = some (scheme, rest)) :
    ∃ name, cs = name ++ ':' :: rest ∧ ':' ∉ name := by
  rw [scheme?.eq_def] at h
  split at h
  · next c tail =>
    split at h
    · simp only at h
      split at h
      · next rest' hdrop =>
        obtain ⟨-, rfl⟩ := Prod.mk.inj (Option.some.inj h)
        refine ⟨_, by rw [← hdrop, List.takeWhile_append_dropWhile], fun hcolon => ?_⟩
        have hpart := List.all_eq_true.1 List.all_takeWhile ':' hcolon
        exact absurd hpart (by decide)
      · cases h
    · cases h
  · cases h

/-! ### The user information -/

theorem eq_of_splitLastAt? {cs before after : List Char}
    (h : splitLastAt? cs = some (before, after)) : cs = before ++ '@' :: after := by
  induction cs generalizing before with
  | nil => cases h
  | cons c cs ih =>
      rw [splitLastAt?] at h
      split at h
      · next before' after' hsplit =>
        obtain ⟨rfl, rfl⟩ := Prod.mk.inj (Option.some.inj h)
        rw [ih hsplit]
        rfl
      · split at h
        · next hc =>
          obtain ⟨rfl, rfl⟩ := Prod.mk.inj (Option.some.inj h)
          rw [hc]
          rfl
        · cases h

/-- A host leaves the user information as it is. -/
theorem eq_of_hostOf? {username cs : List Char} {password : Option (List Char)} {needed : Bool}
    {a : Authority} (h : hostOf? username password needed cs = some a) :
    a.username = username ∧ a.password = password := by
  simp only [hostOf?] at h
  split at h
  · split at h
    · obtain rfl := Option.some.inj h
      exact ⟨rfl, rfl⟩
    · cases h
  · split at h
    · split at h
      · obtain ⟨rest, -, rfl⟩ := Option.map_eq_some_iff.1 h
        exact ⟨rfl, rfl⟩
      · obtain rfl := Option.some.inj h
        exact ⟨rfl, rfl⟩
    · cases h

/-- The password of an authority stands after the name of the user, and an `@` after it. -/
theorem exists_authority_password {cs p : List Char} {ended : Bool} {a : Authority}
    (h : authority? cs ended = some a) (hp : a.password = some p) :
    ∃ after, cs = a.username ++ ':' :: p ++ '@' :: after := by
  rw [authority?] at h
  split at h
  · rw [(eq_of_hostOf? h).2] at hp
    cases hp
  · split at h
    · cases h
    · rw [(eq_of_hostOf? h).2] at hp
      cases hp
  · next user after _ hsplit =>
    obtain ⟨husername, hpassword⟩ := eq_of_hostOf? h
    rw [hp] at hpassword
    have hcut := (Option.filter_eq_some_iff.1 hpassword.symm).1
    refine ⟨after, ?_⟩
    rw [eq_of_splitLastAt? hsplit, husername]
    congr 1
    exact Chars.eq_of_cut (Prod.ext rfl hcut)

/-! ### Whole URLs -/

variable {url : String} {u : UrlParts} {p : List Char}

/-- **The password of the user information** stands after `://` and the name of the user, and an
`@` stands after it. -/
theorem exists_password (hu : ofText? url = some u) (hp : u.password = some p)
    (hurl : Unbroken url.toList) :
    ∃ scheme rest, url.toList = scheme ++ [':', '/', '/'] ++ u.username ++ ':' :: p ++ '@' :: rest ∧
      ':' ∉ scheme := by
  obtain ⟨lead, trail, hclean, hlead⟩ := exists_clean hurl
  obtain ⟨⟨scheme, tail⟩, hscheme, hu⟩ := Option.bind_eq_some_iff.1 hu
  obtain ⟨name, hname, hcolon⟩ := eq_of_scheme? hscheme
  simp only at hu
  split at hu
  · next rest =>
    obtain ⟨a, ha, rfl⟩ := Option.map_eq_some_iff.1 hu
    obtain ⟨after, hafter⟩ := exists_authority_password ha hp
    have hrest : rest =
        a.username ++ ':' :: p ++ '@' :: after ++ rest.dropWhile (!endsAuthority ·) := by
      rw [← hafter, List.takeWhile_append_dropWhile]
    refine ⟨lead ++ name, after ++ rest.dropWhile (!endsAuthority ·) ++ trail, ?_, ?_⟩
    · calc url.toList
          = lead ++ (name ++ ':' :: '/' :: '/' :: rest) ++ trail := by rw [hclean, hname]
        _ = lead ++ (name ++ ':' :: '/' :: '/' :: (a.username ++ ':' :: p ++ '@' :: after ++
              rest.dropWhile (!endsAuthority ·))) ++ trail := by rw [← hrest]
        _ = _ := by simp
    · rw [List.mem_append]
      exact not_or.2 ⟨hlead, hcolon⟩
  · obtain rfl := Option.some.inj hu
    cases hp

/-- The query of a text stands after its first question mark. -/
theorem exists_cutQuery {cs query : List Char} (h : (cutQuery cs).2 = some query) :
    ∃ path fragment, cs = path ++ '?' :: query ++ fragment := by
  refine ⟨(cutQuery cs).1, cs.dropWhile (· != '#'), ?_⟩
  have hcut : cs.takeWhile (· != '#') = (cutQuery cs).1 ++ '?' :: query :=
    Chars.eq_of_cut (Prod.ext rfl h)
  have happend := List.takeWhile_append_dropWhile (p := (· != '#')) (l := cs)
  rw [hcut] at happend
  exact happend.symm

/-- The query of a URL stands behind its scheme. -/
theorem exists_query {query : List Char} (hu : ofText? url = some u) (hquery : u.query = some query)
    (hurl : Unbroken url.toList) :
    ∃ before after, url.toList = before ++ query ++ after ∧ ':' ∈ before := by
  obtain ⟨lead, trail, hclean, -⟩ := exists_clean hurl
  obtain ⟨⟨scheme, tail⟩, hscheme, hu⟩ := Option.bind_eq_some_iff.1 hu
  obtain ⟨name, hname, -⟩ := eq_of_scheme? hscheme
  -- The query is cut off from what comes after the scheme, or after the authority.
  have hplace : ∃ start path fragment, tail = start ++ (path ++ '?' :: query ++ fragment) := by
    simp only at hu
    split at hu
    · next rest =>
      obtain ⟨a, -, rfl⟩ := Option.map_eq_some_iff.1 hu
      obtain ⟨path, fragment, hcut⟩ := exists_cutQuery hquery
      refine ⟨'/' :: '/' :: rest.takeWhile (!endsAuthority ·), path, fragment, ?_⟩
      rw [← hcut, List.cons_append, List.cons_append, List.takeWhile_append_dropWhile]
    · obtain rfl := Option.some.inj hu
      obtain ⟨path, fragment, hcut⟩ := exists_cutQuery hquery
      exact ⟨[], path, fragment, hcut⟩
  obtain ⟨start, path, fragment, htail⟩ := hplace
  refine ⟨lead ++ name ++ ':' :: (start ++ path ++ ['?']), fragment ++ trail, ?_, ?_⟩
  · rw [hclean, hname, htail]
    simp
  · simp

/-- **The value of a parameter** stands behind the scheme, after the parameter's name and an
equality sign; of several values it is the last one that counts. -/
theorem exists_parameter {name value : String} (hu : ofText? url = some u)
    (hvalue : RedisTarget.lastOf? name (Percent.query (u.query.getD [])) = some value)
    (hne : value ≠ "") (hurl : Unbroken url.toList) :
    ∃ before spelled secret after, url.toList = before ++ spelled ++ '=' :: secret ++ after ∧
      ':' ∈ before ∧ Percent.queryText spelled = name ∧ Percent.queryText secret = value := by
  obtain ⟨front, back, hpairs, -⟩ := List.lookup_eq_some_iff.1 hvalue
  have hmem : (name, value) ∈ Percent.query (u.query.getD []) := by
    rw [← List.mem_reverse, hpairs]
    exact List.mem_append_right _ List.mem_cons_self
  obtain ⟨part, hpart, hpair⟩ := List.mem_map.1 hmem
  simp only [Prod.mk.injEq] at hpair
  obtain ⟨hname, hsecret⟩ := hpair
  cases hcut : (Chars.cut '=' part).2 with
  | none =>
      rw [hcut] at hsecret
      have hempty : Percent.queryText [] = "" := by
        simp [Percent.queryText, Percent.lossyText, Percent.decode, Utf8.encode, Utf8.units,
          Utf8.unitsWithin]
      exact absurd (hsecret.symm.trans hempty) hne
  | some secret =>
      rw [hcut] at hsecret
      cases hquery : u.query with
      | none =>
          -- Without a query there is no pair at all.
          rw [hquery] at hpart
          exact absurd hpart List.not_mem_nil
      | some query =>
          rw [hquery] at hpart
          obtain ⟨start, rest, hstretch⟩ :=
            Chars.isInfix_of_mem_splitOn (List.mem_filter.1 hpart).1
          obtain ⟨before, after, hplace, hcolon⟩ := exists_query hu hquery hurl
          have hsplit : part = (Chars.cut '=' part).1 ++ '=' :: secret :=
            Chars.eq_of_cut (Prod.ext rfl hcut)
          refine ⟨before ++ start, (Chars.cut '=' part).1, secret, rest ++ after, ?_,
            List.mem_append_left _ hcolon, hname, hsecret⟩
          calc url.toList
              = before ++ query ++ after := hplace
            _ = before ++ (start ++ part ++ rest) ++ after := by rw [hstretch]; rfl
            _ = before ++ (start ++ ((Chars.cut '=' part).1 ++ '=' :: secret) ++ rest) ++
                after := by rw [← hsplit]
            _ = _ := by simp

end UrlParts

end DataTier
