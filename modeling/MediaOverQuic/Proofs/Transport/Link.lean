import Mathlib.Tactic
import MediaOverQuic.Transport.Link

/-!
# Pipes of a link

Each side reads from the pipe that the other one writes to. What one direction of a stream holds
does not change when the other one is used, and not when an end is let go of.
-/
namespace MediaOverQuic.Link

variable {l : Link} {id : Nat} {r : Role}

theorem stream_updateStream (h : id < l.streams.length) (f : Stream → Stream) :
    (l.updateStream id f).stream id = f (l.stream id) := by
  simp [stream, updateStream, List.getElem?_eq_getElem h]

theorem stream_updateStream_ne {id' : Nat} (h : id' ≠ id) (f : Stream → Stream) :
    (l.updateStream id' f).stream id = l.stream id := by
  simp [stream, updateStream, h]

theorem updateStream_of_le (h : l.streams.length ≤ id) (f : Stream → Stream) :
    l.updateStream id f = l := by
  rw [updateStream, List.modify_eq_self h]

@[simp] theorem length_streams_setInbound (l : Link) (id : Nat) (r : Role) (p : Pipe) :
    (l.setInbound id r p).streams.length = l.streams.length := List.length_modify _ _ _

@[simp] theorem length_streams_release (l : Link) (id : Nat) (r : Role) :
    (l.release id r).streams.length = l.streams.length := List.length_modify _ _ _

theorem inbound_setInbound (h : id < l.streams.length) (r : Role) (p : Pipe) :
    (l.setInbound id r p).inbound id r = p := by
  rw [inbound, setInbound, stream_updateStream h, Stream.setInbound, PerRole.get_set]

theorem inbound_setInbound_ne {r' : Role} (h : r' ≠ r) (p : Pipe) :
    (l.setInbound id r p).inbound id r' = l.inbound id r' := by
  obtain rfl : r' = r.peer := by cases r <;> cases r' <;> first | rfl | exact absurd rfl h
  by_cases hid : id < l.streams.length
  · rw [inbound, setInbound, stream_updateStream hid, Stream.setInbound, PerRole.get_set_peer]
    rfl
  · rw [setInbound, updateStream_of_le (Nat.not_lt.mp hid)]

theorem buffer_release (l : Link) (id id' : Nat) (r r' : Role) :
    ((l.release id' r').inbound id r).buffer = (l.inbound id r).buffer := by
  by_cases hid : id' = id
  · subst hid
    by_cases h : id' < l.streams.length
    · rw [inbound, release, stream_updateStream h]
      cases r <;> rfl
    · rw [release, updateStream_of_le (Nat.not_lt.mp h)]
  · rw [inbound, release, stream_updateStream_ne hid]
    rfl

theorem outbound_peer (l : Link) (id : Nat) (r : Role) : l.outbound id r.peer = l.inbound id r := by
  rw [outbound, Stream.outbound, Role.peer_peer]
  rfl

theorem setOutbound_peer (l : Link) (id : Nat) (r : Role) (p : Pipe) :
    l.setOutbound id r.peer p = l.setInbound id r p := by
  unfold setOutbound Stream.setOutbound
  rw [Role.peer_peer]
  rfl

/-- Putting back what is there changes nothing. -/
theorem setInbound_self (l : Link) (id : Nat) (r : Role) :
    l.setInbound id r (l.inbound id r) = l := by
  have hstreams : l.streams.modify id (·.setInbound r (l.inbound id r)) = l.streams := by
    apply List.ext_getElem?
    intro i
    rw [List.getElem?_modify]
    split_ifs with hi
    · subst hi
      cases hs : l.streams[id]? with
      | none => rfl
      | some s =>
        have hid : l.stream id = s := by simp [stream, hs]
        have hset : s.inbound.set r (s.inbound.get r) = s.inbound := by cases r <;> rfl
        simp [Stream.setInbound, inbound, hid, hset]
    · exact id_map _
  rw [setInbound, updateStream, hstreams]

theorem inbound_release (h : id < l.streams.length) (r r' : Role) :
    (l.release id r').inbound id r = (l.inbound id r).close := by
  rw [inbound, release, stream_updateStream h]
  cases r <;> rfl

theorem inbound_finish_peer (h : id < l.streams.length) (r : Role) :
    (l.updateStream id (·.finish r.peer)).inbound id r = (l.inbound id r).close := by
  rw [inbound, stream_updateStream h, Stream.finish, Stream.outbound, Role.peer_peer,
    Stream.setOutbound, Role.peer_peer, PerRole.get_set]
  rfl

theorem inbound_peer_finish_peer (l : Link) (id : Nat) (r : Role) :
    (l.updateStream id (·.finish r.peer)).inbound id r.peer = l.inbound id r.peer := by
  by_cases hid : id < l.streams.length
  · rw [inbound, stream_updateStream hid, Stream.finish, Stream.setOutbound, Role.peer_peer,
      PerRole.get_set_peer]
    rfl
  · rw [updateStream_of_le (Nat.not_lt.mp hid)]

@[simp] theorem length_streams_updateStream (l : Link) (id : Nat) (f : Stream → Stream) :
    (l.updateStream id f).streams.length = l.streams.length := List.length_modify _ _ _

end MediaOverQuic.Link
