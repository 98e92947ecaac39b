import ApiGraph.Proofs.Access
import ApiGraph.Proofs.Json.Record
import ApiGraph.Proofs.Text.Value

/-!
# Credentials

The call that checks credentials always says which scheme is checked and where the credential
stands. It leaves out a name that is spelled like `authorization`, whatever the scheme falls back to
and wherever the name is looked up. So the call determines the name exactly if it states one, or if
the name is that of a header and the scheme falls back to `authorization`
(`credentials_determined_iff`).
-/

namespace ApiGraph

open Backend Text

namespace Access

def place (a : Access) : TokenLocation := a.location.getD .header

/-- The name that the middleware looks up where a call states none. -/
def fallbackName : AuthScheme → String
  | .apiKey => "x-api-key"
  | _ => "authorization"

/-- The name that the graph gives to a credential; an empty name is none. -/
def credentialName (a : Access) : String :=
  (a.header.filter (· ≠ "")).getD (fallbackName a.effectiveScheme)

def checkedName (a : Access) : String :=
  (Middleware.statedHeader a).getD (fallbackName a.effectiveScheme)

/-- A name of its own, which no spelling of `authorization` is. -/
def NamesOwn (a : Access) : Prop :=
  ∃ h, a.header = some h ∧ h ≠ "" ∧ asciiLower h ≠ "authorization"

end Access

/-- Case does not count in the names of headers. In those of cookies and of query parameters it
does. -/
def SameName : TokenLocation → String → String → Prop
  | .header, m, n => asciiLower m = asciiLower n
  | _, m, n => m = n

theorem SameName.refl (l : TokenLocation) (n : String) : SameName l n n := by
  cases l <;> rfl

theorem AuthScheme.name_injective : Function.Injective AuthScheme.name := by
  intro a b same
  cases a <;> cases b <;> first | rfl | exact absurd same (by decide)

theorem TokenLocation.name_injective : Function.Injective TokenLocation.name := by
  intro l m same
  cases l <;> cases m <;> first | rfl | exact absurd same (by decide)

namespace Backend.Middleware

def credentialLines (r : Route) : List String :=
  ((chain r).filter (·.function = "authenticate")).flatMap (·.lines)

theorem place_eq_of_stated {a b : Access} (same : statedLocation a = statedLocation b) :
    a.place = b.place := by
  have states (c : Access) : c.place = (statedLocation c).getD .header := by
    unfold Access.place statedLocation
    cases c.location with
    | none => rfl
    | some l => cases l <;> rfl
  rw [states, states, same]

theorem credentialLines_of_some {r : Route} {a : Access} (secured : r.access = some a) :
    credentialLines r = (ofAccess a).lines := by
  have before : (limitSteps r).filter (·.function = "authenticate") = [] := by
    unfold limitSteps
    cases r.rateLimit <;> simp [function]
  have roles : (roleSteps a).filter (·.function = "authenticate") = [] := by
    unfold roleSteps
    split <;> simp [function]
  have after : (bodySteps r).filter (·.function = "authenticate") = [] := by
    unfold bodySteps
    cases r.method.hasBody <;> cases r.validatesBody <;> simp [function]
  rw [credentialLines, chain_of_some secured, List.filter_append, List.filter_append,
    List.filter_cons, before, roles, after]
  simp [ofAccess, function]

/-- What stands behind the scheme of a call. -/
def callEnd (location : Option TokenLocation) (header : Option String) : List Char :=
  (if (authOptions location header).isEmpty then ""
    else ", " ++ inBraces (authOptions location header)).toList ++ [')', ',']

theorem lines_authenticate (scheme : AuthScheme) (location : Option TokenLocation)
    (header : Option String) :
    ∃ line, (authenticate scheme location header).lines = [line] ∧
      line.toList = "authenticate(".toList ++ ((quote scheme.name).toList ++ callEnd location header) := by
  let options := authOptions location header
  refine ⟨"authenticate(" ++ quote scheme.name ++
    (if options.isEmpty then "" else ", " ++ inBraces options) ++ ")" ++ ",", rfl, ?_⟩
  simp [callEnd, options]

theorem quote_append_injective {s t : String} {a b : List Char}
    (same : (quote s).toList ++ a = (quote t).toList ++ b) : s = t ∧ a = b := by
  have read := unquote_quote s a
  rw [same, unquote_quote] at read
  obtain ⟨text, rest⟩ := Prod.mk.inj (Option.some.inj read)
  exact ⟨(String.toList_inj.mp text).symm, rest.symm⟩

variable {l m : Option TokenLocation} {h k : Option String}

theorem optionMembers_injective (same : optionMembers l h = optionMembers m k) :
    l.map (·.name) = m.map (·.name) ∧ h = k := by
  have text : Function.Injective Value.text := fun _ _ same => Value.text.inj same
  have place := congrArg (List.lookup "tokenLocation") same
  have name := congrArg (List.lookup "headerName") same
  simp [optionMembers, List.lookup_append, Json.lookup_option] at place name
  refine ⟨Option.map_injective text ?_, Option.map_injective text name⟩
  rwa [Option.map_map, Option.map_map]

theorem callEnd_injective (same : callEnd l h = callEnd m k) :
    l.map (·.name) = m.map (·.name) ∧ h = k := by
  have empty {l : Option TokenLocation} {h : Option String} :
      (authOptions l h).isEmpty = true ↔ optionMembers l h = [] := by
    cases l <;> cases h <;> simp [authOptions, optionMembers]
  refine optionMembers_injective ?_
  unfold callEnd at same
  split at same <;> rename_i first <;> split at same <;> rename_i second
  · rw [empty.mp first, empty.mp second]
  · rw [String.toList_append] at same
    exact absurd (congrArg List.head? same) (by simp)
  · rw [String.toList_append] at same
    exact absurd (congrArg List.head? same) (by simp)
  · rw [String.toList_append, String.toList_append, List.append_assoc, List.append_assoc] at same
    have read := (spelled_options l h).determines (spelled_options m k) (stops_cons (by decide) _)
      (stops_cons (by decide) _) (List.append_cancel_left same)
    exact Value.record.inj read

theorem ofAccess_lines_injective {a b : Access} (same : (ofAccess a).lines = (ofAccess b).lines) :
    a.effectiveScheme = b.effectiveScheme ∧ a.place = b.place ∧ statedHeader a = statedHeader b := by
  obtain ⟨line, written, text⟩ :=
    lines_authenticate a.effectiveScheme (statedLocation a) (statedHeader a)
  obtain ⟨other, also, reads⟩ :=
    lines_authenticate b.effectiveScheme (statedLocation b) (statedHeader b)
  have equal : line = other := by
    rw [ofAccess, ofAccess, written, also] at same
    exact List.singleton_inj.mp same
  rw [equal, reads] at text
  obtain ⟨scheme, rest⟩ := quote_append_injective (List.append_cancel_left text)
  obtain ⟨location, header⟩ := callEnd_injective rest
  refine ⟨(AuthScheme.name_injective scheme).symm, ?_, header.symm⟩
  exact place_eq_of_stated (Option.map_injective TokenLocation.name_injective location).symm

end Backend.Middleware

/-! ### The name of a credential -/

namespace Access

theorem stated_iff {a : Access} {h : String} : Middleware.statedHeader a = some h ↔
    a.header = some h ∧ h ≠ "" ∧ asciiLower h ≠ "authorization" := by
  simp [Middleware.statedHeader]

theorem namesOwn_iff {a : Access} : a.NamesOwn ↔ ∃ h, Middleware.statedHeader a = some h :=
  exists_congr fun _ => stated_iff.symm

theorem credentialName_of_stated {a : Access} {h : String}
    (states : Middleware.statedHeader a = some h) : a.credentialName = h := by
  obtain ⟨given, full, _⟩ := stated_iff.mp states
  rw [credentialName, given, Option.filter_some_pos (by simpa using full), Option.getD_some]

/-- A call that states no name looks up `authorization`, unless it checks a key. That is the name
which the graph gives, up to its case. -/
theorem lower_credentialName {a : Access} (unstated : Middleware.statedHeader a = none)
    (notKey : a.effectiveScheme ≠ .apiKey) : asciiLower a.credentialName = "authorization" := by
  have usual : fallbackName a.effectiveScheme = "authorization" := by
    unfold fallbackName
    split
    · rename_i key
      exact absurd key notKey
    · rfl
  unfold credentialName
  cases named : a.header.filter (· ≠ "") with
  | none =>
    rw [Option.getD_none, usual]
    decide
  | some h =>
    obtain ⟨given, full⟩ := Option.filter_eq_some_iff.mp named
    by_contra own
    exact absurd (stated_iff.mpr ⟨given, by simpa using full, own⟩) (by simp [unstated])

theorem unstated_of_not {a : Access} (anonymous : ¬ a.NamesOwn) :
    Middleware.statedHeader a = none := by
  rw [namesOwn_iff, not_exists] at anonymous
  exact Option.eq_none_iff_forall_ne_some.mpr anonymous

/-- A call that states no name is the call of every other name which it would not state. -/
theorem ofAccess_rename {a : Access} {header : Option String} (anonymous : ¬ a.NamesOwn)
    (also : ¬ NamesOwn { a with header := header }) :
    Middleware.ofAccess { a with header := header } = Middleware.ofAccess a := by
  unfold Middleware.ofAccess
  rw [unstated_of_not anonymous, unstated_of_not also]
  rfl

theorem sameName_of_told {a b : Access} (told : a.NamesOwn ∨ a.place = .header ∧
      a.effectiveScheme ≠ .apiKey) (scheme : b.effectiveScheme = a.effectiveScheme)
    (header : Middleware.statedHeader b = Middleware.statedHeader a) :
    SameName a.place b.credentialName a.credentialName := by
  cases states : Middleware.statedHeader a with
  | some h =>
    rw [credentialName_of_stated states, credentialName_of_stated (header.trans states)]
    exact SameName.refl _ _
  | none =>
    have anonymous : ¬ a.NamesOwn := by simp [namesOwn_iff, states]
    obtain ⟨place, notKey⟩ := told.resolve_left anonymous
    rw [place]
    exact (lower_credentialName (header.trans states) (scheme ▸ notKey)).trans
      (lower_credentialName states notKey).symm

/-- If all the names that a call may stand for are one, then they are `authorization`. -/
theorem told_of_sameName {a : Access}
    (one : ∀ header, ¬ NamesOwn { a with header := header } →
      SameName a.place (credentialName { a with header := header }) a.credentialName) :
    a.place = .header ∧ a.effectiveScheme ≠ .apiKey := by
  have small := one (some "authorization") (by simp [NamesOwn, asciiLower])
  have large := one (some "Authorization") (by simp [NamesOwn, asciiLower])
  have absent := one none (by simp [NamesOwn])
  have place : a.place = .header := by
    cases located : a.place with
    | header => rfl
    | cookie | query =>
      rw [located] at small large
      have one : "authorization" = "Authorization" := small.trans large.symm
      exact absurd one (by decide)
  refine ⟨place, fun key => ?_⟩
  rw [place] at small absent
  have same : asciiLower (fallbackName a.effectiveScheme) = asciiLower "authorization" :=
    absent.trans small.symm
  rw [key] at same
  exact absurd same (by decide)

/-- The server looks up the name of the graph, unless that is a spelling of `authorization` which
the fallback of the call does not stand for. -/
theorem sameName_checkedName_iff (a : Access) : SameName a.place a.checkedName a.credentialName ↔
    ∀ h, a.header = some h → asciiLower h = "authorization" →
      a.effectiveScheme ≠ .apiKey ∧ (a.place = .header ∨ h = "authorization") := by
  by_cases spelled : ∃ h, a.header = some h ∧ asciiLower h = "authorization"
  · obtain ⟨h, given, spells⟩ := spelled
    have dropped : a.checkedName = fallbackName a.effectiveScheme := by
      rw [checkedName, Middleware.statedHeader, given, Option.filter_some_neg (by simp [spells]),
        Option.getD_none]
    have full : h ≠ "" := fun empty => absurd (empty ▸ spells) (by decide)
    have kept : a.credentialName = h := by
      rw [credentialName, given, Option.filter_some_pos (by simpa using full), Option.getD_some]
    have foreign : "x-api-key" ≠ h := fun same => absurd (same ▸ spells) (by decide)
    have lower : asciiLower "authorization" = "authorization" := by decide
    have key : asciiLower "x-api-key" ≠ "authorization" := by decide
    simp only [given, Option.some.injEq, forall_eq', spells, true_imp_iff, dropped, kept]
    cases a.effectiveScheme <;> cases a.place <;>
      simp [SameName, fallbackName, spells, lower, key, foreign, eq_comm]
  · have same : a.checkedName = a.credentialName := by
      unfold checkedName credentialName Middleware.statedHeader
      cases given : a.header with
      | none => rfl
      | some h => simp [Option.filter, show asciiLower h ≠ "authorization" from
          fun spells => spelled ⟨h, given, spells⟩]
    rw [same]
    exact iff_of_true (SameName.refl _ _) fun h given spells => absurd ⟨h, given, spells⟩ spelled

end Access

/-! ### The call and the credential -/

namespace Route

open Middleware

/-- A call that checks credentials determines the scheme and the place. It determines the name
exactly if it states one, or if the name is that of a header and the fallback is `authorization`.
The server looks up the name of the graph, unless that is a spelling of `authorization` which the
fallback does not stand for. -/
theorem credentials_determined_iff (r : Route) (a : Access) (secured : r.access = some a) :
    (∀ s b, s.access = some b → credentialLines s = credentialLines r →
      b.effectiveScheme = a.effectiveScheme ∧ b.place = a.place) ∧
    ((∀ s b, s.access = some b → credentialLines s = credentialLines r →
        SameName a.place b.credentialName a.credentialName) ↔
      a.NamesOwn ∨ a.place = .header ∧ a.effectiveScheme ≠ .apiKey) ∧
    (SameName a.place a.checkedName a.credentialName ↔
      ∀ h, a.header = some h → asciiLower h = "authorization" →
        a.effectiveScheme ≠ .apiKey ∧ (a.place = .header ∨ h = "authorization")) := by
  have parts {s : Route} {b : Access} (also : s.access = some b)
      (same : credentialLines s = credentialLines r) : b.effectiveScheme = a.effectiveScheme ∧
      b.place = a.place ∧ statedHeader b = statedHeader a := by
    rw [credentialLines_of_some also, credentialLines_of_some secured] at same
    exact ofAccess_lines_injective same
  refine ⟨fun s b also same => ?_, ⟨fun determined => ?_, fun told s b also same => ?_⟩,
    a.sameName_checkedName_iff⟩
  · obtain ⟨scheme, place, _⟩ := parts also same
    exact ⟨scheme, place⟩
  · refine or_iff_not_imp_left.mpr fun anonymous => ?_
    refine Access.told_of_sameName fun header other => ?_
    -- The same route, with another name for its credential.
    refine determined { r with access := some { a with header := header } } _ rfl ?_
    rw [credentialLines_of_some rfl, credentialLines_of_some secured,
      Access.ofAccess_rename anonymous other]
  · obtain ⟨scheme, _, header⟩ := parts also same
    exact Access.sameName_of_told told scheme header

end Route

/-- Two keys in headers and two tokens in cookies. Of each pair one has the name `Authorization` and
the other one has none. -/
def namedCredentials : Project where
  nodes :=
    [{ id := "key", content := .endpoint
        { path := "/key", auth := { required := true, scheme := .apiKey } } },
     { id := "namedKey", content := .endpoint
        { path := "/named-key",
          auth := { required := true, scheme := .apiKey, header := some "Authorization" } } },
     { id := "cookie", content := .endpoint
        { path := "/cookie",
          auth := { required := true, scheme := .jwt, location := some .cookie } } },
     { id := "namedCookie", content := .endpoint
        { path := "/named-cookie",
          auth := { required := true, scheme := .jwt, location := some .cookie,
                    header := some "Authorization" } } }]

/-- Both of a pair are checked by one call, which looks up another name than `Authorization`. -/
theorem namedCredentials_looks_elsewhere :
    ∃ key namedKey cookie namedCookie a b,
      Resolve.routes namedCredentials = [key, namedKey, cookie, namedCookie] ∧
      namedKey.access = some a ∧ namedCookie.access = some b ∧
      a.credentialName = "Authorization" ∧ b.credentialName = "Authorization" ∧
      Middleware.credentialLines key = ["authenticate('apiKey'),"] ∧
      Middleware.credentialLines namedKey = ["authenticate('apiKey'),"] ∧
      ¬ SameName a.place a.checkedName a.credentialName ∧
      Middleware.credentialLines cookie = ["authenticate('jwt', \x7b tokenLocation: 'cookie' \x7d),"] ∧
      Middleware.credentialLines namedCookie =
        ["authenticate('jwt', \x7b tokenLocation: 'cookie' \x7d),"] ∧
      ¬ SameName b.place b.checkedName b.credentialName := by
  refine ⟨_, _, _, _, ⟨.apiKey, [], none, some "Authorization"⟩,
    ⟨.jwt, [], some .cookie, some "Authorization"⟩, rfl, by decide, by decide, by decide, by decide,
    by decide +kernel, by decide +kernel, fun same => ?_, by decide +kernel, by decide +kernel,
    fun same => ?_⟩
  · have determined := Route.credentials_determined_iff
      ((Resolve.routes namedCredentials).get ⟨1, by decide⟩) _ rfl
    exact absurd rfl (determined.2.2.mp same "Authorization" rfl (by decide)).1
  · have determined := Route.credentials_determined_iff
      ((Resolve.routes namedCredentials).get ⟨3, by decide⟩) _ rfl
    rcases (determined.2.2.mp same "Authorization" rfl (by decide)).2 with place | small
    · exact absurd place (by decide)
    · exact absurd small (by decide)

end ApiGraph
