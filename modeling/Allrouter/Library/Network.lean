import Mathlib.Tactic

/-!
# Addresses, networks and hosts of URLs

An address has 16 bytes; the addresses of 4 bytes are among them (`IP.to4`). A network is a prefix
of addresses of one kind (`IPNet`). The host of a URL may come with a port (`splitHostPort`,
`hostname`): the two ways to take them apart agree on the host (`hostname_of_splitHostPort`).
-/

namespace Network

open List String

abbrev IP := BitVec 128

namespace IP

/-- The address `a.b.c.d`. -/
def v4 (a b c d : BitVec 8) : IP := (0xffff : BitVec 96) ++ (a ++ b ++ c ++ d : BitVec 32)

/-- The 4 bytes of the address, if it is one of 4 bytes. -/
def to4 (ip : IP) : Option (BitVec 32) :=
  if ip.extractLsb' 32 96 = 0xffff then some (ip.extractLsb' 0 32) else none

def byte (ip : IP) (i : ℕ) : BitVec 8 := ip.extractLsb' (120 - 8 * i) 8

def isUnspecified (ip : IP) : Bool := ip = 0 || ip = v4 0 0 0 0

end IP

/-- Whether two addresses agree on the first `ones` bits. -/
def agree {w : ℕ} (ones : ℕ) (a b : BitVec w) : Bool := a >>> (w - ones) = b >>> (w - ones)

/-- The addresses that agree with the given one on the first `ones` bits. -/
inductive IPNet
  | v4 (address : BitVec 32) (ones : ℕ)
  | v6 (address : BitVec 128) (ones : ℕ)
  deriving DecidableEq

/-- A network of one kind has no address of the other kind. -/
def IPNet.contains (ip : IP) : IPNet → Bool
  | v4 address ones => ip.to4.any (agree ones address)
  | v6 address ones => ip.to4.isNone && agree ones address ip

/-! ## Hosts and ports -/

/-- What stands before and after the last `c`. -/
def cutLast (c : Char) : List Char → Option (List Char × List Char)
  | [] => none
  | a :: l =>
    match cutLast c l with
    | some (before, after) => some (a :: before, after)
    | none => if a = c then some ([], l) else none

lemma cutLast_eq_some {c : Char} {l before after : List Char}
    (h : cutLast c l = some (before, after)) :
    l = before ++ c :: after := by
  induction l generalizing before with
  | nil => cases h
  | cons a l ih =>
    rw [cutLast] at h
    split at h
    · rename_i before' after' hcut
      cases h
      rw [ih hcut, cons_append]
    · split_ifs at h with ha
      cases h
      rw [ha, nil_append]

/-- The host and the port, where an address with colons stands in brackets. -/
def splitHostPort (hostport : List Char) : Option (List Char × List Char) :=
  match cutLast ':' hostport with
  | none => none
  | some (before, port) =>
    if hostport.head? = some '[' then
      if before.getLast? = some ']' ∧ ']' ∉ before.dropLast ∧ '[' ∉ hostport.tail ∧ ']' ∉ port then
        some (before.tail.dropLast, port)
      else none
    else if ':' ∈ before ∨ '[' ∈ hostport ∨ ']' ∈ hostport then none
    else some (before, port)

/-- The host without its brackets. -/
def unbracket (host : List Char) : List Char :=
  if host.head? = some '[' ∧ host.getLast? = some ']' then host.tail.dropLast else host

/-- The host, without a port and without brackets. -/
def hostname (hostport : List Char) : List Char :=
  match cutLast ':' hostport with
  | none => unbracket hostport
  | some (before, port) => unbracket (if port.all Char.isDigit then before else hostport)

lemma splitHostPort_eq_some {hostport host port : List Char}
    (h : splitHostPort hostport = some (host, port)) :
    ∃ before, cutLast ':' hostport = some (before, port) ∧ ']' ∉ port ∧
      host = unbracket before := by
  rw [splitHostPort] at h
  split at h
  · cases h
  · rename_i before port' hcut
    have hsplit := cutLast_eq_some hcut
    split_ifs at h with hhead hbracket hplain
    · cases h
      refine ⟨before, hcut, hbracket.2.2.2, (if_pos ⟨?_, hbracket.1⟩).symm⟩
      -- there is something before the colon, and it begins as the whole
      cases before with
      | nil => cases hbracket.1
      | cons c before => rwa [hsplit] at hhead
    · cases h
      rw [hsplit] at hplain
      refine ⟨host, hcut, fun hmem => hplain (.inr (.inr ?_)),
        (if_neg fun hbrackets => hplain (.inr (.inl ?_))).symm⟩
      · exact mem_append_right _ (mem_cons_of_mem _ hmem)
      · exact mem_append_left _ (mem_of_head? hbrackets.1)

/-- A URL whose host may end in a colon and a port. -/
structure URL where
  (scheme host : String)
  port_digits : ∀ before port, cutLast ':' host.toList = some (before, port) → ']' ∉ port →
    port.all Char.isDigit

namespace URL

variable (u : URL)

def splitHostPort : Option (String × String) :=
  (Network.splitHostPort u.host.toList).map fun (host, port) => (ofList host, ofList port)

def hostname : String := ofList (Network.hostname u.host.toList)

variable {u}

lemma hostname_of_splitHostPort {host port : String} (h : u.splitHostPort = some (host, port)) :
    host = u.hostname := by
  obtain ⟨⟨host', port'⟩, hsplit, ⟨⟩⟩ := Option.map_eq_some_iff.1 h
  obtain ⟨before, hcut, hbracket, rfl⟩ := splitHostPort_eq_some hsplit
  rw [hostname, Network.hostname, hcut]
  dsimp only
  rw [if_pos (u.port_digits before port' hcut hbracket)]

end URL

end Network
