/-!
# Roles

A session has a client, which opened the connection, and a server. What exists once for each of the
two is a `PerRole`.
-/
namespace MediaOverQuic

inductive Role
  | client
  | server
  deriving DecidableEq, Repr, Inhabited

namespace Role

def peer : Role → Role
  | client => server
  | server => client

@[simp] theorem peer_peer (r : Role) : r.peer.peer = r := by cases r <;> rfl

@[simp] theorem peer_ne (r : Role) : r.peer ≠ r := by cases r <;> simp [peer]

/-- Clients use even request identifiers, servers odd ones. -/
def firstRequestId : Role → Nat
  | client => 0
  | server => 1

end Role

/-- One `α` of the client's and one of the server's. -/
structure PerRole (α : Type u) where
  client : α
  server : α
  deriving DecidableEq, Repr, Inhabited

namespace PerRole

def both (a : α) : PerRole α := ⟨a, a⟩

def get (p : PerRole α) : Role → α
  | .client => p.client
  | .server => p.server

def set (p : PerRole α) (r : Role) (a : α) : PerRole α :=
  match r with
  | .client => { p with client := a }
  | .server => { p with server := a }

def update (p : PerRole α) (r : Role) (f : α → α) : PerRole α := p.set r (f (p.get r))

@[simp] theorem get_both (a : α) (r : Role) : (both a).get r = a := by cases r <;> rfl

@[simp] theorem get_set (p : PerRole α) (r : Role) (a : α) : (p.set r a).get r = a := by
  cases r <;> rfl

@[simp] theorem get_set_peer (p : PerRole α) (r : Role) (a : α) :
    (p.set r a).get r.peer = p.get r.peer := by
  cases r <;> rfl

end PerRole

end MediaOverQuic
