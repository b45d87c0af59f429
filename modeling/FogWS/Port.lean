import FogWS.Error
import FogWS.Lib.Text
/-!
# The explicit port of a URI: `src/client.rs`

The library takes a port it cannot read for no port at all. `has_invalid_explicit_port` (client.rs:36)
finds out whether there was one: what follows the last `@` is longer than the host.

| here | there |
| --- | --- |
| `HttpAuthority host portU16` | `Authority::host` and `Authority::port_u16` of the `http` crate |
| `Authority` | `[userinfo "@"] host [":" port]` |
| `Text.parse 65535` | `u16::from_str` |
| `clientConnect` | `connect` (client.rs:10) up to the connection attempt |

`u16::from_str` takes a leading `+`, which no port has. The `http` crate refuses a second `:` after the
host; here it may be there, and `Misread` says what comes of it.
-/
namespace FogWS

/-- `u16::MAX`. -/
def u16Max : Nat := 65535

/-! ## The code -/

structure Uri where
  scheme : Option String
  authority : Option (List Char)

section Code

variable (host : List Char → List Char) (portU16 : List Char → Option Nat)

/-- `has_invalid_explicit_port` (client.rs:36). -/
def hasInvalidExplicitPort (uri : Uri) : Bool :=
  uri.authority.any fun authority =>
    let hostAndPort := Text.afterLast '@' authority
    decide (Text.byteLen hostAndPort > Text.byteLen (host authority)) && (portU16 authority).isNone

/-- `connect` (client.rs:10), from what `into_client_request` gives to the request it connects with. -/
def clientConnect (request : Except String Uri) : Except DriverError Uri :=
  match request with
  | .error error => .error (.invalidUri ("invalid WebSocket URI: " ++ error))
  | .ok uri =>
    if uri.scheme ≠ some "ws" then
      .error (.invalidUri "only plain ws:// URIs are supported in this release slice")
    else if hasInvalidExplicitPort host portU16 uri then
      .error (.invalidUri "WebSocket URI has an invalid explicit port")
    else .ok uri

end Code

/-! ## Authorities -/

/-- A bracketed literal, or a name. -/
inductive IsHost : List Char → Prop
  | name {name : List Char} : ':' ∉ name → '@' ∉ name → name.head? ≠ some '[' → IsHost name
  | literal {address : List Char} : ']' ∉ address → '@' ∉ address → IsHost ('[' :: address ++ [']'])

structure Authority where
  userinfo : Option (List Char)
  host : List Char
  port : Option (List Char)
  isHost : IsHost host
  /-- The last `@` ends the user information. -/
  noAt : ∀ p, port = some p → '@' ∉ p

def Authority.portPart (a : Authority) : List Char :=
  match a.port with
  | none => []
  | some p => ':' :: p

def Authority.hostAndPort (a : Authority) : List Char := a.host ++ a.portPart

def Authority.text (a : Authority) : List Char :=
  match a.userinfo with
  | none => a.hostAndPort
  | some u => u ++ '@' :: a.hostAndPort

/-- What the `http` crate says of an authority. -/
structure HttpAuthority (host : List Char → List Char) (portU16 : List Char → Option Nat) : Prop where
  name : ∀ text, (Text.afterLast '@' text).head? ≠ some '[' →
    host text = (Text.afterLast '@' text).takeWhile (· != ':')
  literal : ∀ text address rest, ']' ∉ address →
    Text.afterLast '@' text = '[' :: address ++ ']' :: rest → host text = '[' :: address ++ [']']
  port : ∀ text, portU16 text = if ':' ∈ text then Text.parse u16Max (Text.afterLast ':' text) else none

/-- The text is no number, but what follows its last `:` is one, with or without a sign. -/
structure Misread (p : List Char) : Prop where
  notNumber : ¬Text.IsNumber u16Max p
  number : ∃ ds, (Text.afterLast ':' p = ds ∨ Text.afterLast ':' p = '+' :: ds) ∧ Text.IsNumber u16Max ds

/-- Without another `:`, that is a sign in front of a number. -/
theorem misread_iff_signed {p : List Char} (hp : ':' ∉ p) :
    Misread p ↔ ∃ ds, p = '+' :: ds ∧ Text.IsNumber u16Max ds := by
  constructor
  · rintro ⟨hnot, ds, hds, hnum⟩
    rw [Text.afterLast_of_not_mem hp] at hds
    rcases hds with rfl | rfl
    · exact absurd hnum hnot
    · exact ⟨ds, rfl, hnum⟩
  · rintro ⟨ds, rfl, hnum⟩
    exact ⟨Text.not_isNumber rfl, ds, .inr (Text.afterLast_of_not_mem hp), hnum⟩

/-- A misread port is one the parser reads all the same. -/
theorem misread_iff {p : List Char} : Misread p ↔
    ¬Text.IsNumber u16Max p ∧ Text.parse u16Max (Text.afterLast ':' p) ≠ none := by
  rw [Ne, Text.parse_eq_none_iff]
  constructor
  · rintro ⟨hnot, ds, hds, hnum⟩
    refine ⟨hnot, fun h => ?_⟩
    rcases hds with hds | hds
    · exact h.1 (hds ▸ hnum)
    · exact h.2 ds hds hnum
  · rintro ⟨hnot, h⟩
    refine ⟨hnot, ?_⟩
    by_cases hlast : Text.IsNumber u16Max (Text.afterLast ':' p)
    · exact ⟨_, .inl rfl, hlast⟩
    · by_contra hno
      exact h ⟨hlast, fun ds hds hnum => hno ⟨ds, .inr hds, hnum⟩⟩

/-- A number is read as it is. -/
theorem parse_number {p : List Char} (hp : Text.IsNumber u16Max p) :
    Text.parse u16Max (Text.afterLast ':' p) ≠ none := by
  have hcolon : ':' ∉ p := fun hmem => absurd (hp.digits ':' hmem) (by decide)
  rw [Text.afterLast_of_not_mem hcolon, Ne, Text.parse_eq_none_iff]
  exact fun h => h.1 hp

variable {host : List Char → List Char} {portU16 : List Char → Option Nat}

theorem IsHost.noAt {name : List Char} (h : IsHost name) : '@' ∉ name := by
  cases h with
  | name _ hat _ => exact hat
  | literal _ hat => simp [hat]

namespace Authority

/-- What follows the last `@`. -/
theorem afterLast_text (a : Authority) : Text.afterLast '@' a.text = a.hostAndPort := by
  have hat : '@' ∉ a.hostAndPort := by
    unfold hostAndPort portPart
    cases hp : a.port with
    | none => simpa using a.isHost.noAt
    | some p => simp [a.isHost.noAt, a.noAt p hp]
  unfold text
  cases a.userinfo with
  | none => exact Text.afterLast_of_not_mem hat
  | some u => exact (Text.afterLast_append _ _).trans (Text.afterLast_of_not_mem hat)

/-- The `http` crate finds the host. -/
theorem host_text (a : Authority) (hhttp : HttpAuthority host portU16) : host a.text = a.host := by
  have hlast := a.afterLast_text
  unfold hostAndPort at hlast
  generalize hname : a.host = name at hlast
  have hhost := a.isHost
  rw [hname] at hhost
  cases hhost with
  | name hcolon _ hhead =>
    have hhead' : (name ++ a.portPart).head? ≠ some '[' := by
      cases name with
      | nil => unfold portPart; split <;> simp
      | cons c name => exact hhead
    rw [hhttp.name a.text (hlast ▸ hhead'), hlast]
    unfold portPart
    split
    · rw [List.append_nil, List.takeWhile_eq_self_iff]
      intro c hc
      have hne : c ≠ ':' := fun heq => hcolon (heq ▸ hc)
      simpa using hne
    · exact Text.takeWhile_append_sep hcolon _
  | literal hclose _ =>
    refine hhttp.literal a.text _ a.portPart hclose ?_
    rw [hlast]
    simp

/-- It reads a port behind the last `:`. -/
theorem port_text (a : Authority) (hhttp : HttpAuthority host portU16) {p : List Char}
    (hp : a.port = some p) : portU16 a.text = Text.parse u16Max (Text.afterLast ':' p) := by
  have htext : ∃ before, a.text = before ++ ':' :: p := by
    unfold text hostAndPort portPart
    rw [hp]
    cases a.userinfo with
    | none => exact ⟨a.host, rfl⟩
    | some u => exact ⟨u ++ '@' :: a.host, by simp⟩
  obtain ⟨before, htext⟩ := htext
  have hmem : ':' ∈ a.text := by simp [htext]
  rw [hhttp.port, if_pos hmem, htext, Text.afterLast_append]

end Authority

/-! ## The result -/

/-- Without an explicit port, none is invalid. -/
theorem no_port_valid (hhttp : HttpAuthority host portU16) {a : Authority} {scheme : Option String}
    (hp : a.port = none) : hasInvalidExplicitPort host portU16 ⟨scheme, some a.text⟩ = false := by
  have hpart : a.portPart = [] := by simp only [Authority.portPart, hp]
  simp [hasInvalidExplicitPort, a.afterLast_text, a.host_text hhttp, Authority.hostAndPort, hpart]

/-- An explicit port is invalid if the parser refuses what follows its last `:`. -/
theorem port_invalid_iff (hhttp : HttpAuthority host portU16) {a : Authority} {scheme : Option String}
    {p : List Char} (hp : a.port = some p) :
    hasInvalidExplicitPort host portU16 ⟨scheme, some a.text⟩ = true ↔
      Text.parse u16Max (Text.afterLast ':' p) = none := by
  have hpart : a.portPart = ':' :: p := by simp only [Authority.portPart, hp]
  have hlonger : Text.byteLen a.hostAndPort > Text.byteLen a.host := by
    have := Text.byteLen_cons_pos ':' p
    rw [Authority.hostAndPort, hpart, Text.byteLen_append]
    omega
  simp [hasInvalidExplicitPort, a.afterLast_text, a.host_text hhttp, hlonger, a.port_text hhttp hp]

/-- **The explicit port is checked rightly** exactly if it is not misread. -/
theorem port_check_iff (hhttp : HttpAuthority host portU16) (scheme : Option String) (a : Authority) :
    (hasInvalidExplicitPort host portU16 ⟨scheme, some a.text⟩ = true ↔
      ∃ p, a.port = some p ∧ ¬Text.IsNumber u16Max p) ↔ ∀ p, a.port = some p → ¬Misread p := by
  cases hp : a.port with
  | none => simp [no_port_valid hhttp hp]
  | some p =>
    rw [port_invalid_iff hhttp hp]
    simp only [Option.some.injEq, exists_eq_left', forall_eq', misread_iff]
    by_cases hnum : Text.IsNumber u16Max p
    · simp [hnum, parse_number hnum]
    · simp [hnum]

/-! ## An implementation of the `http` crate's part -/

def httpHost (authority : List Char) : List Char :=
  let hostAndPort := Text.afterLast '@' authority
  if hostAndPort.head? = some '[' then hostAndPort.takeWhile (· != ']') ++ [']']
  else hostAndPort.takeWhile (· != ':')

def httpPortU16 (authority : List Char) : Option Nat :=
  if ':' ∈ authority then Text.parse u16Max (Text.afterLast ':' authority) else none

theorem http_authority : HttpAuthority httpHost httpPortU16 where
  name text hhead := by simp only [httpHost, hhead, if_false]
  literal text address rest hclose htext := by
    have hclose' : ']' ∉ '[' :: address := by simp [hclose]
    have hhead : (Text.afterLast '@' text).head? = some '[' := by rw [htext]; rfl
    simp only [httpHost, hhead, if_true]
    rw [htext, Text.takeWhile_append_sep hclose']
  port _ := rfl

/-- The port `+80` is taken for 80. -/
theorem signed_port_accepted : ∃ a : Authority, a.text = "example.test:+80".toList ∧
    a.port = some "+80".toList ∧ ¬Text.IsNumber u16Max "+80".toList ∧
      hasInvalidExplicitPort httpHost httpPortU16 ⟨some "ws", some a.text⟩ = false := by
  let a : Authority := {
    userinfo := none
    host := "example.test".toList
    port := some "+80".toList
    isHost := .name (by decide) (by decide) (by decide)
    noAt := by rintro _ ⟨⟩; decide }
  exact ⟨a, by decide, rfl, Text.not_isNumber rfl, by decide⟩

/-- Behind digits and colons that belong to others, the port `65536` is refused. -/
theorem port_check_iff_tooLarge : ∃ a : Authority, a.text = "user:80@[::1]:65536".toList ∧
    hasInvalidExplicitPort httpHost httpPortU16 ⟨some "ws", some a.text⟩ = true := by
  let a : Authority := {
    userinfo := some "user:80".toList
    host := '[' :: "::1".toList ++ [']']
    port := some "65536".toList
    isHost := .literal (by decide) (by decide)
    noAt := by rintro _ ⟨⟩; decide }
  have hnot : ¬Text.IsNumber u16Max "65536".toList := fun h => absurd h.le (by decide)
  have hread : ∀ p, a.port = some p → ¬Misread p := by
    rintro _ ⟨⟩ h
    obtain ⟨ds, hds, -⟩ := (misread_iff_signed (by decide)).mp h
    simp at hds
  exact ⟨a, by decide, ((port_check_iff http_authority (some "ws") a).mpr hread).mpr ⟨_, rfl, hnot⟩⟩

end FogWS
