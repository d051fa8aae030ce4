import ResilientHttp.Url.Read
import Mathlib.Data.List.TakeWhile

/-!
# The parts of a URL that was read

What a reader returns is not any record of parts. A scheme consists of letters, digits, plus signs,
hyphens and dots, and a host is a domain name, an IPv4 address, an opaque host or an IPv6 address
between brackets; of these only the last has colons. So a colon ends the scheme, and a colon after a
host that is not inside brackets begins the port (`Url.Delimited`, `Url.delimited_of_read`). And a
port that is kept is never the usual one (`Url.port_of_read`).
-/

set_option autoImplicit false

namespace ResilientHttp

/-- A character that is no letter is what lower case leaves of itself alone. -/
theorem Text.toLower_eq_iff {mark : Char} (small : mark.toNat < 'a'.toNat ∨ 'z'.toNat < mark.toNat)
    (large : mark.toNat < 'A'.toNat ∨ 'Z'.toNat < mark.toNat) (character : Char) :
    character.toLower = mark ↔ character = mark := by
  unfold Char.toLower
  split
  · rename_i upper
    have first : 'A'.val.toNat = 65 := rfl
    have last : 'Z'.val.toNat = 90 := rfl
    simp only [ge_iff_le, UInt32.le_iff_toNat_le] at upper
    constructor
    · rintro rfl
      simp only [Char.toNat, UInt32.toNat_add, UInt32.toNat_sub] at small
      have low : 'a'.val.toNat = 97 := rfl
      have high : 'z'.val.toNat = 122 := rfl
      omega
    · rintro rfl
      simp only [Char.toNat] at large
      omega
  · exact Iff.rfl

namespace Url

/-- A text that has colons only if it stands between brackets. -/
def HostLike (host : String) : Prop :=
  ':' ∈ host.toList → ∃ inside, host = "[" ++ inside ++ "]"

/-- A colon ends the scheme, and only a host between brackets has colons. -/
structure Delimited (url : Url) : Prop where
  scheme : ':' ∉ url.scheme.toList
  host : HostLike url.hostText

theorem hostLike_of_not_mem {host : String} (plain : ':' ∉ host.toList) : HostLike host :=
  fun colon => absurd colon plain

theorem hostLike_empty : HostLike "" := hostLike_of_not_mem (by decide)

/-- A host that is left out on some condition is host-like as it was. -/
theorem hostLike_getD_ite {left : Prop} [Decidable left] {host : Option String}
    (hostLike : HostLike (host.getD "")) :
    HostLike ((if left then none else host).getD "") := by
  split
  · exact hostLike_empty
  · exact hostLike

/-! ## Schemes -/

theorem not_mem_of_splitScheme {characters rest : List Char} {scheme : String}
    (found : splitScheme characters = some (scheme, rest)) : ':' ∉ scheme.toList := by
  cases characters with
  | nil => cases found
  | cons first others =>
      simp only [splitScheme] at found
      split at found
      · rename_i letter
        split at found
        · rename_i inside after broken
          simp only [Option.some.injEq, Prod.mk.injEq] at found
          rw [← found.1, String.toList_ofList, List.mem_map]
          rintro ⟨character, member, lowered⟩
          rw [Text.toLower_eq_iff (by decide) (by decide)] at lowered
          subst lowered
          rcases List.mem_cons.1 member with same | within
          · rw [← same] at letter
            exact absurd letter (by decide)
          · have inside_eq : inside = others.takeWhile fun c => !!isSchemeChar c :=
              (congrArg Prod.fst broken).symm
            rw [inside_eq] at within
            exact absurd (List.mem_takeWhile_imp within) (by decide)
        · cases found
      · cases found

/-! ## Hosts -/

theorem hexDigit_ne_colon : ∀ value < 16, Percent.hexDigit value ≠ ':' := by decide

/-- Encoding a text with percent signs brings no colon into it. -/
theorem not_mem_encode {extra : Percent.EncodeSet} {characters : List Char}
    (plain : ':' ∉ characters) : ':' ∉ Percent.encode extra characters := by
  intro member
  obtain ⟨character, within, encoded⟩ := List.mem_flatMap.1 member
  unfold Percent.encodeChar at encoded
  split at encoded
  · obtain ⟨byte, -, digits⟩ := List.mem_flatMap.1 encoded
    have bound := byte.toNat_lt
    simp only [Percent.encodeByte, List.mem_cons, List.not_mem_nil, or_false] at digits
    rcases digits with percent | high | low
    · cases percent
    · exact hexDigit_ne_colon _ (by omega) high.symm
    · exact hexDigit_ne_colon _ (by omega) low.symm
  · rw [List.mem_singleton.1 encoded] at plain
    exact plain within

theorem not_mem_toString (number : Nat) : ':' ∉ (toString number).toList := by
  intro member
  have digits : (toString number).toList = Nat.toDigits 10 number := by
    rw [Nat.toString_eq_repr, Nat.repr_eq_ofList_toDigits, String.toList_ofList]
  rw [digits] at member
  exact absurd (Nat.isDigit_of_mem_toDigits (by decide) (by decide) member) (by decide)

theorem hostLike_ipv4 (address : Nat) : HostLike (Ipv4.text address) := by
  refine hostLike_of_not_mem ?_
  simp only [Ipv4.text, String.toList_append, List.mem_append, not_or]
  have point : ':' ∉ ".".toList := by decide
  simp only [not_mem_toString, point, not_false_eq_true, and_self]

theorem hostLike_ipv6 (groups : List Nat) : HostLike (Ipv6.text groups) := by
  have bracketed : ∀ inner : List Char,
      String.ofList ('[' :: (inner ++ [']'])) = "[" ++ String.ofList inner ++ "]" := by
    intro inner
    simp [← String.toList_inj]
  exact fun _ => ⟨_, bracketed _⟩

theorem hostLike_of_bracketedHost {host : List Char} {text : String}
    (found : bracketedHost host = some (.ok text)) : HostLike text := by
  unfold bracketedHost at found
  split at found
  · split at found
    · rename_i inside _
      simp only [Option.some.injEq] at found
      cases groups : Ipv6.read inside.dropLast with
      | error fault =>
          rw [groups] at found
          cases found
      | ok groups' =>
          rw [groups] at found
          cases found
          exact hostLike_ipv6 groups'
    · cases found
  · cases found

theorem hostLike_of_opaqueHost {host : List Char} {text : String}
    (read : opaqueHost host = .ok text) : HostLike text := by
  unfold opaqueHost at read
  split at read
  · rename_i answer bracketed
    exact hostLike_of_bracketedHost (bracketed.trans (congrArg some read))
  · split at read
    · cases read
    · rename_i allowed
      cases read
      refine hostLike_of_not_mem ?_
      rw [String.toList_ofList]
      refine not_mem_encode fun member => allowed (List.any_eq_true.2 ⟨_, member, ?_⟩)
      decide

theorem hostLike_of_domainHost {host : List Char} {text : String}
    (read : domainHost host = .ok text) : HostLike text := by
  unfold domainHost at read
  split at read
  · rename_i answer bracketed
    exact hostLike_of_bracketedHost (bracketed.trans (congrArg some read))
  · cases named : Domain.toAscii (Percent.decode (Utf8.encode host)) with
    | error fault =>
        rw [named] at read
        cases read
    | ok name =>
        have allowed := Domain.allowed_of_toAscii named
        rw [named] at read
        simp only [bind, Except.bind] at read
        split at read
        · cases read
        · split at read
          · cases address : Ipv4.read name with
            | error fault =>
                rw [address] at read
                cases read
            | ok number =>
                rw [address] at read
                cases read
                exact hostLike_ipv4 number
          · cases read
            refine hostLike_of_not_mem fun colon => ?_
            rw [String.toList_ofList] at colon
            exact absurd (List.all_eq_true.1 allowed _ colon) (by decide)

/-! ## Ports -/

/-- A port that is kept is not the usual one. -/
theorem ne_usualPort_of_splitPort {scheme : String} {characters rest : List Char}
    {port : Option Nat} (read : splitPort scheme characters = .ok (port, rest)) {number : Nat}
    (kept : port = some number) : usualPort scheme ≠ some number := by
  have unusual : ∀ {found : Option Nat}, (if found = usualPort scheme then none else found) = port →
      usualPort scheme ≠ some number := by
    intro found chosen
    subst kept
    split at chosen
    · cases chosen
    · rename_i differ
      rw [← chosen]
      exact Ne.symm differ
  unfold splitPort at read
  split at read
  · simp only [bind, Except.bind, pure, Except.pure] at read
    split at read
    · cases read
    · split at read
      · split at read
        · exact unusual (Prod.mk.inj (Except.ok.inj read)).1
        · cases read
      · exact unusual (Prod.mk.inj (Except.ok.inj read)).1
  · cases read
    cases kept

/-! ## Reading -/

/-- What the reader of a scheme makes: a URL of that scheme, with a host and an unusual port if it
has any. -/
structure IsOf (scheme : String) (url : Url) : Prop where
  scheme_eq : url.scheme = scheme
  host : HostLike url.hostText
  port : ∀ number, url.port = some number → usualPort scheme ≠ some number

/-- Query and fragment change nothing about the parts before them. -/
theorem IsOf.withTail {scheme : String} {url : Url} (isOf : url.IsOf scheme) (kind : SchemeKind)
    (characters : List Char) : (url.withTail kind characters).IsOf scheme := by
  unfold Url.withTail
  split
  · exact ⟨isOf.scheme_eq, isOf.host, isOf.port⟩
  · exact ⟨isOf.scheme_eq, isOf.host, isOf.port⟩

/-- Reading an authority from its port on, after user information and host. -/
def readPort (scheme : String) (kind : SchemeKind) (name : String) (password : Option String)
    (host : String) (characters : List Char) : Except UrlFault Url := do
  if host.isEmpty && characters.head? = some ':' then .error .emptyHost
  if host.isEmpty && (!name.isEmpty || password.isSome) then .error .emptyHost
  let (port, afterPort) ← splitPort scheme characters
  let (path, tail) := splitPath kind afterPort
  pure <| withTail kind
    { scheme, username := name, password
      host := if host.isEmpty then none else some host
      port, hasAuthority := true, path := String.ofList path } tail

/-- Reading an authority from its host on, after the user information. -/
def readHost (scheme : String) (kind : SchemeKind) (name : String) (password : Option String)
    (characters : List Char) : Except UrlFault Url := do
  let (hostCharacters, afterHost) := splitHost kind false characters
  if kind = .special && hostCharacters.isEmpty then .error .emptyHost
  let host ← if kind = .other then opaqueHost hostCharacters else domainHost hostCharacters
  readPort scheme kind name password host afterHost

section Authority

variable {scheme : String} {kind : SchemeKind} {characters : List Char} {url : Url}

theorem exists_readHost (read : readAuthority scheme kind characters = .ok url) :
    ∃ name password rest, readHost scheme kind name password rest = .ok url := by
  unfold readAuthority at read
  dsimp only at read
  split at read
  · exact ⟨_, _, _, read⟩
  · split at read
    · split at read
      · cases read
      · exact ⟨_, _, _, read⟩
    · exact ⟨_, _, _, read⟩

theorem exists_readPort {name : String} {password : Option String}
    (read : readHost scheme kind name password characters = .ok url) :
    ∃ host rest, HostLike host ∧ readPort scheme kind name password host rest = .ok url := by
  unfold readHost at read
  simp only [bind, Except.bind] at read
  split at read
  · cases read
  · split at read
    · split at read
      · cases read
      · exact ⟨_, _, hostLike_of_opaqueHost ‹_›, read⟩
    · split at read
      · cases read
      · exact ⟨_, _, hostLike_of_domainHost ‹_›, read⟩

theorem isOf_of_readPort {name : String} {password : Option String} {host : String}
    (hostLike : HostLike host)
    (read : readPort scheme kind name password host characters = .ok url) : url.IsOf scheme := by
  unfold readPort at read
  simp only [bind, Except.bind, pure, Except.pure] at read
  split at read
  · cases read
  · split at read
    · cases read
    · split at read
      · cases read
      · rename_i found
        cases read
        refine IsOf.withTail ?_ _ _
        exact ⟨rfl, hostLike_getD_ite hostLike, fun _ kept => ne_usualPort_of_splitPort found kept⟩

theorem isOf_of_readAuthority (read : readAuthority scheme kind characters = .ok url) :
    url.IsOf scheme := by
  obtain ⟨_, _, _, fromHost⟩ := exists_readHost read
  obtain ⟨_, _, hostLike, fromPort⟩ := exists_readPort fromHost
  exact isOf_of_readPort hostLike fromPort

theorem isOf_of_readOther (read : readOther scheme characters = .ok url) : url.IsOf scheme := by
  unfold readOther at read
  split at read
  · exact isOf_of_readAuthority read
  · cases read
    refine IsOf.withTail ?_ _ _
    exact ⟨rfl, hostLike_empty, nofun⟩
  · cases read
    refine IsOf.withTail ?_ _ _
    exact ⟨rfl, hostLike_empty, nofun⟩

end Authority

/-- A file's URL has no port, and its host, if it has one, is read as any other. -/
theorem isOf_of_readFile {characters : List Char} {url : Url}
    (read : readFile characters = .ok url) : url.IsOf "file" := by
  have finished : ∀ {host : Option String} {drive : Bool} {path : String} {tail : List Char},
      HostLike (host.getD "") →
        (withTail .file
          { scheme := "file", host := if drive then none else host
            hasAuthority := true, path } tail).IsOf "file" := by
    intro host drive path tail hostLike
    refine IsOf.withTail ?_ _ _
    exact ⟨rfl, hostLike_getD_ite hostLike, nofun⟩
  unfold readFile at read
  simp only [bind, Except.bind, pure, Except.pure] at read
  split at read
  · split at read
    · split at read
      · cases read
        exact finished hostLike_empty
      · split at read
        · cases read
          exact finished hostLike_empty
        · split at read
          · cases read
          · rename_i name named
            cases read
            exact finished (hostLike_getD_ite (hostLike_of_domainHost named))
    · cases read
      exact finished hostLike_empty
  · cases read
    exact finished hostLike_empty

/-- What was read is the URL of the scheme before its first colon. -/
theorem exists_isOf_of_read {input : String} {url : Url} (found : read input = .ok url) :
    ∃ scheme, ':' ∉ scheme.toList ∧ url.IsOf scheme := by
  unfold read at found
  split at found
  · cases found
  · rename_i scheme rest schemed
    refine ⟨scheme, not_mem_of_splitScheme schemed, ?_⟩
    split at found
    · exact isOf_of_readAuthority found
    · rename_i file
      have same : scheme = "file" := by
        unfold schemeKind at file
        split at file
        · assumption
        · split at file <;> cases file
      rw [same]
      exact isOf_of_readFile found
    · exact isOf_of_readOther found

theorem delimited_of_read {input : String} {url : Url} (found : read input = .ok url) :
    url.Delimited := by
  obtain ⟨scheme, plain, isOf⟩ := exists_isOf_of_read found
  exact ⟨isOf.scheme_eq ▸ plain, isOf.host⟩

theorem port_of_read {input : String} {url : Url} (found : read input = .ok url) {port : Nat}
    (kept : url.port = some port) : usualPort url.scheme ≠ some port := by
  obtain ⟨scheme, -, isOf⟩ := exists_isOf_of_read found
  rw [isOf.scheme_eq]
  exact isOf.port port kept

end Url

end ResilientHttp
