import Mathlib.Algebra.Ring.Nat
import Mathlib.Data.List.Basic

/-!
# Packet filter chains

A chain is a list of rules. A packet walks through it: `RETURN` leaves the chain, `REJECT` and
`ACCEPT` end the traversal, `MARK` changes the packet and goes on, and a jump walks through another
chain first. `χ` is the type of chain names.
-/

namespace ZeroVpn.Netfilter

inductive Family
  | v4 | v6
deriving DecidableEq, Repr

def Family.bits : Family → Nat
  | v4 => 32
  | v6 => 128

inductive Table
  | filter | mangle | nat
deriving DecidableEq, Repr

inductive Proto
  | tcp | udp | other
deriving DecidableEq, Repr

/-- An address range; an address is a number of 32 or 128 bits. -/
structure Cidr where
  family : Family
  address : Nat
  length : Nat
deriving DecidableEq

namespace Cidr

/-- The address given by its four bytes. -/
def v4 (a b c d length : Nat) : Cidr := ⟨.v4, ((a * 256 + b) * 256 + c) * 256 + d, length⟩

/-- The address given by its first and its last group, with zeros between them. -/
def v6 (first last length : Nat) : Cidr := ⟨.v6, first * 2 ^ 112 + last, length⟩

def contains (c : Cidr) (address : Nat) : Bool :=
  address / 2 ^ (c.family.bits - c.length) == c.address / 2 ^ (c.family.bits - c.length)

end Cidr

structure Packet where
  family : Family
  proto : Proto
  dport : Nat
  dst : Nat
  /-- The first packet of a TCP connection. -/
  syn : Bool := false
  /-- The owner of the socket; a packet of the kernel has none. -/
  uid : Option Nat
  inIface : String := ""
  outIface : String
  mark : Nat

inductive Match
  | mark (value : Nat)
  | uidOwner (uid : String)
  | dport (proto : Proto) (port : Nat)
  | dst (cidr : Cidr)
  | inIface (name : String)
  | notInIface (name : String)
  | outIface (name : String)
  /-- `-p tcp --tcp-flags SYN,RST SYN` -/
  | tcpSyn
deriving DecidableEq

def Match.admits (p : Packet) : Match → Bool
  | .mark value => p.mark == value
  | .uidOwner uid => p.uid.any fun n => toString n == uid
  | .dport proto port => p.proto == proto && p.dport == port
  | .dst cidr => cidr.contains p.dst
  | .inIface name => p.inIface == name
  | .notInIface name => p.inIface != name
  | .outIface name => p.outIface == name
  | .tcpSyn => p.proto == .tcp && p.syn

inductive Target (χ : Type)
  | ret
  /-- `MARK --set-xmark` with the full mask. -/
  | setXmark (value : Nat)
  | reject (icmp : String)
  | accept
  | dnat (address : String)
  /-- `TCPMSS --set-mss` -/
  | setMss (size : Nat)
  | jump (chain : χ)
deriving DecidableEq

structure Rule (χ : Type) where
  conditions : List Match
  target : Target χ
deriving DecidableEq

def Rule.admits {χ : Type} (r : Rule χ) (p : Packet) : Bool := r.conditions.all (·.admits p)

inductive Verdict
  | accept | reject
deriving DecidableEq, Repr

section walk
variable {χ : Type}

/-- What a traversal ends with: a verdict, or none at the end of the chain; and the packet. -/
abbrev Outcome := Option Verdict × Packet

/-- Walk through a list of rules; `jump` walks through a named chain. -/
def walk (jump : χ → Packet → Outcome) : List (Rule χ) → Packet → Outcome
  | [], p => (none, p)
  | r :: rs, p =>
    if r.admits p then
      match r.target with
      | .ret => (none, p)
      | .setXmark value => walk jump rs { p with mark := value }
      | .reject _ => (some .reject, p)
      | .accept => (some .accept, p)
      | .dnat _ => (some .accept, p)
      | .setMss _ => walk jump rs p
      | .jump chain =>
        match jump chain p with
        | (some verdict, p) => (some verdict, p)
        | (none, p) => walk jump rs p
    else walk jump rs p

/-- Walk through a chain with jumps nested up to a depth. -/
def walkChain (chains : χ → List (Rule χ)) : Nat → χ → Packet → Outcome
  | 0, _, p => (none, p)
  | depth + 1, chain, p => walk (walkChain chains depth) (chains chain) p

variable {jump : χ → Packet → Outcome} {p : Packet} {rs : List (Rule χ)}

variable {ms : List Match}

theorem walk_ret :
    walk jump (⟨ms, .ret⟩ :: rs) p =
      if ms.all (·.admits p) then (none, p) else walk jump rs p := by
  rfl

theorem walk_setXmark :
    walk jump (⟨ms, .setXmark value⟩ :: rs) p =
      if ms.all (·.admits p) then walk jump rs { p with mark := value } else walk jump rs p := by
  rfl

theorem walk_reject :
    walk jump (⟨ms, .reject icmp⟩ :: rs) p =
      if ms.all (·.admits p) then (some .reject, p) else walk jump rs p := by
  rfl

/-- A chain that only jumps has the outcome of the other one. -/
theorem walk_jump (chain : χ) : walk jump [⟨[], .jump chain⟩] p = jump chain p := by
  rw [walk]
  dsimp only
  rcases jump chain p with ⟨_ | verdict, p'⟩ <;> rfl

/-- Rules of one kind that leave the chain. -/
theorem walk_rets {α : Type} (f : α → Match) (l : List α) :
    walk jump (l.map (fun a => ⟨[f a], .ret⟩) ++ rs) p =
      if l.any fun a => (f a).admits p then (none, p) else walk jump rs p := by
  induction l with
  | nil => rfl
  | cons a l ih =>
    rw [List.map_cons, List.cons_append, walk_ret, ih]
    by_cases ha : (f a).admits p = true <;> simp [ha]

/-- Rules of one kind that reject. -/
theorem walk_rejects {α : Type} (f : α → Match) (icmp : String) (l : List α) :
    walk jump (l.map (fun a => ⟨[f a], .reject icmp⟩) ++ rs) p =
      if l.any fun a => (f a).admits p then (some .reject, p) else walk jump rs p := by
  induction l with
  | nil => rfl
  | cons a l ih =>
    rw [List.map_cons, List.cons_append, walk_reject, ih]
    by_cases ha : (f a).admits p = true <;> simp [ha]

/-- Rules of one kind that mark, for matches that do not look at the mark. -/
theorem walk_setXmarks {α : Type} (f : α → Match) (value : Nat)
    (hf : ∀ a (p : Packet) mark, (f a).admits { p with mark := mark } = (f a).admits p)
    (l : List α) (p : Packet) :
    walk jump (l.map (fun a => ⟨[f a], .setXmark value⟩)) p =
      (none, if l.any fun a => (f a).admits p then { p with mark := value } else p) := by
  induction l generalizing p with
  | nil => rfl
  | cons a l ih =>
    rw [List.map_cons, walk_setXmark, ih, ih]
    by_cases ha : (f a).admits p = true <;> simp [ha, hf]

/-- A `MARK` rule of the list takes the packet, whatever mark the packet had. -/
def setsMark (jump : χ → Packet → Outcome) : List (Rule χ) → Packet → Bool
  | [], _ => false
  | r :: rs, p =>
    if r.admits p then
      match r.target with
      | .setXmark _ => true
      | .ret | .reject _ | .accept | .dnat _ => false
      | .setMss _ => setsMark jump rs p
      | .jump chain =>
        match jump chain p with
        | (some _, _) => false
        | (none, p) => setsMark jump rs p
    else setsMark jump rs p

theorem setsMark_ret :
    setsMark jump (⟨ms, .ret⟩ :: rs) p = (!ms.all (·.admits p) && setsMark jump rs p) := by
  rw [setsMark, Rule.admits]
  cases ms.all (·.admits p) <;> rfl

theorem setsMark_setXmark :
    setsMark jump (⟨ms, .setXmark value⟩ :: rs) p =
      (ms.all (·.admits p) || setsMark jump rs p) := by
  rw [setsMark, Rule.admits]
  cases ms.all (·.admits p) <;> rfl

theorem setsMark_rets {α : Type} (f : α → Match) (l : List α) :
    setsMark jump (l.map (fun a => ⟨[f a], .ret⟩) ++ rs) p =
      (!(l.any fun a => (f a).admits p) && setsMark jump rs p) := by
  induction l with
  | nil => rfl
  | cons a l ih =>
    rw [List.map_cons, List.cons_append, setsMark_ret, ih]
    simp [Bool.and_assoc]

theorem setsMark_setXmarks {α : Type} (f : α → Match) (value : Nat) (l : List α) :
    setsMark jump (l.map (fun a => ⟨[f a], .setXmark value⟩)) p =
      l.any fun a => (f a).admits p := by
  induction l with
  | nil => rfl
  | cons a l ih =>
    rw [List.map_cons, setsMark_setXmark, ih]
    simp

end walk
end ZeroVpn.Netfilter
