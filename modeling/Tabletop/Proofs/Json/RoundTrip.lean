import Mathlib.Data.List.Nodup
import Tabletop.Json.Decode
import Tabletop.Proofs.Json.Document

/-!
# Forms that are read back

A form of a data type is a way of reading it from JSON and a way of writing it.  `RoundTrip` says that
the two belong together.  This module has the round trips of simple values, and what makes a round
trip of others: lists and enumerations (`RoundTrip.list`, `roundTrip_enum`), values that may be
missing (`RoundTrip.nullable`), records (`record?_obj` and `memberSlot_cons`), and records with
variants (`tagged?_tag`).
-/

namespace Tabletop.Json

/-! ## Round trips -/

/-- A way of reading and a way of writing that belong together.  What is written is read again, as
`norm` makes it; it can be part of a document, and nests containers no deeper than `height`; and it
is not `null`, which stands for a value that is missing. -/
structure RoundTrip {α : Type} (read : Json → Option α) (write : α → Json) (norm : α → α)
    (height : Nat) : Prop where
  read_write : ∀ a, read (write a) = some (norm a)
  writable : ∀ a room, height ≤ room → Writable room (write a)
  ne_null : ∀ a, write a ≠ .null

lemma roundTrip_str : RoundTrip str? .str id 0 where
  read_write _ := rfl
  writable s _ _ := .str _ s
  ne_null _ := nofun

lemma roundTrip_bool : RoundTrip bool? .bool id 0 where
  read_write _ := rfl
  writable b _ _ := .bool _ b
  ne_null _ := nofun

lemma natBelow?_int {bound n : Nat} (h : n < bound) : natBelow? bound (.int n) = some n := by
  have hbounds : 0 ≤ (n : Int) ∧ (n : Int) < bound := by omega
  rw [natBelow?, if_pos hbounds, Int.toNat_natCast]

lemma roundTrip_uint8 : RoundTrip uint8? ofUInt8 id 0 where
  read_write n := by
    have hn : n.toNat < 256 := n.toNat_lt
    rw [uint8?, ofUInt8, natBelow?_int hn, Option.map_some, UInt8.ofNat_toNat]
    rfl
  writable n _ _ := by
    have hn : n.toNat < 256 := n.toNat_lt
    exact .int _ (by omega)
  ne_null _ := nofun

lemma roundTrip_uint32 : RoundTrip uint32? ofUInt32 id 0 where
  read_write n := by
    have hn : n.toNat < 4294967296 := n.toNat_lt
    rw [uint32?, ofUInt32, natBelow?_int hn, Option.map_some, UInt32.ofNat_toNat]
    rfl
  writable n _ _ := by
    have hn : n.toNat < 4294967296 := n.toNat_lt
    exact .int _ (by omega)
  ne_null _ := nofun

lemma roundTrip_uint64 : RoundTrip uint64? ofUInt64 id 0 where
  read_write n := by
    have hn : n.toNat < 18446744073709551616 := n.toNat_lt
    rw [uint64?, ofUInt64, natBelow?_int hn, Option.map_some, UInt64.ofNat_toNat]
    rfl
  writable n _ _ := by
    have hn : n.toNat < 18446744073709551616 := n.toNat_lt
    exact .int _ (by omega)
  ne_null _ := nofun

lemma roundTrip_int32 : RoundTrip int32? ofInt32 id 0 where
  read_write n := by
    have hlow : -2 ^ 31 ≤ n.toInt := n.le_toInt
    have hhigh : n.toInt < 2 ^ 31 := n.toInt_lt
    have hbounds : -2147483648 ≤ n.toInt ∧ n.toInt ≤ 2147483647 := by omega
    rw [ofInt32, int32?, if_pos hbounds, Int32.ofInt_toInt]
    rfl
  writable n _ _ := by
    have hlow : -2 ^ 31 ≤ n.toInt := n.le_toInt
    have hhigh : n.toInt < 2 ^ 31 := n.toInt_lt
    exact .int _ (by omega)
  ne_null _ := nofun

/-! ## Enumerations, lists and missing values -/

section Containers

variable {α : Type} {read : Json → Option α} {write : α → Json} {norm : α → α} {height : Nat}

/-- An enumeration is written by name, and read back if every value is the first of its name. -/
lemma roundTrip_enum {values : List α} {name : α → String}
    (hname : ∀ a, values.find? (fun b => name b == name a) = some a) :
    RoundTrip (enum? values name) (fun a => .str (name a)) id 0 where
  read_write a := hname a
  writable a _ _ := .str _ (name a)
  ne_null _ := nofun

lemma roundTrip_innerEnum {values : List α} {name : α → String}
    (hname : ∀ a, values.find? (fun b => name b == name a) = some a) :
    RoundTrip (innerEnum? values name) (fun a => .str (name a)) id 0 where
  read_write a := hname a
  writable a _ _ := .str _ (name a)
  ne_null _ := nofun

lemma RoundTrip.list (h : RoundTrip read write norm height) :
    RoundTrip (list? read) (ofList write) (List.map norm) (height + 1) where
  read_write as := by
    show (as.map write).mapM read = some (as.map norm)
    induction as with
    | nil => rfl
    | cons a as ih => simp [h.read_write a, ih]
  writable as room hroom := by
    obtain ⟨room, rfl⟩ := Nat.exists_eq_add_one_of_ne_zero (n := room) (by omega)
    refine .arr fun item hitem => ?_
    obtain ⟨a, -, rfl⟩ := List.mem_map.1 hitem
    exact h.writable a room (by omega)
  ne_null _ := nofun

/-- A value that may be missing. -/
lemma RoundTrip.nullable (h : RoundTrip read write norm height) (o : Option α) :
    nullable read (ofOption write o) = some (o.map norm) := by
  cases o with
  | none => rfl
  | some a =>
      have hnull := h.ne_null a
      have hread := h.read_write a
      unfold Json.nullable
      rw [ofOption]
      split
      · contradiction
      · rw [hread]
        rfl

lemma RoundTrip.writable_ofOption (h : RoundTrip read write norm height) (o : Option α)
    (room : Nat) (hroom : height ≤ room) : Writable room (ofOption write o) := by
  cases o with
  | none => exact .null room
  | some a => exact h.writable a room hroom

end Containers

/-! ## Records -/

lemma occurrences_le_one {members : List (String × Json)} (h : (members.map Prod.fst).Nodup)
    (name : String) : occurrences name members ≤ 1 := by
  have hcount := List.nodup_iff_count_le_one.1 h name
  rw [List.count, List.countP_map] at hcount
  exact hcount

/-- The fields of a record are the members of the object. -/
@[simp] lemma record?_obj {names : List String} {members : List (String × Json)}
    (h : (members.map Prod.fst).Nodup) : record? names (.obj members) = some (memberSlot members) := by
  have hall : (names.all fun name => occurrences name members ≤ 1) = true :=
    List.all_eq_true.2 fun name _ => decide_eq_true (occurrences_le_one h name)
  rw [record?, if_pos hall]

/-- An object can be written where each member can, with one container less to go. -/
lemma Writable.record {members : List (String × Json)} {room : Nat} (hroom : 0 < room)
    (h : ∀ member ∈ members, Writable (room - 1) member.2) : Writable room (.obj members) := by
  obtain ⟨room, rfl⟩ := Nat.exists_eq_add_one_of_ne_zero (Nat.ne_of_gt hroom)
  exact .obj h

@[simp] lemma memberSlot_cons (member : String × Json) (members : List (String × Json)) (name : String) :
    memberSlot (member :: members) name =
      if member.1 = name then .given member.2 else memberSlot members name := by
  unfold memberSlot
  by_cases h : member.1 = name <;> simp [h]

/-! ### One field after the other -/

-- The next four hold by computation, but are proved by rewriting: a computation is checked by
-- evaluating the reader, which counts up to the bounds of machine words.

@[simp] lemma some_bind {α β : Type} (a : α) (f : α → Option β) : (some a >>= f) = f a := by
  rw [Option.bind_eq_bind, Option.bind_some]

section Given

variable {α : Type} (read : Json → Option α) (j : Json)

@[simp] lemma Slot.required_given : (Slot.given j).required read = read j := by
  rw [Slot.required]

@[simp] lemma Slot.withDefault_given (default : α) :
    (Slot.given j).withDefault default read = read j := by
  rw [Slot.withDefault]

@[simp] lemma Slot.optional_given : (Slot.given j).optional read = nullable read j := by
  rw [Slot.optional]

end Given

mutual

lemma Writable.isReadable {height : Nat} {j : Json} (h : Writable height j) :
    j.isReadable = true := by
  cases h with
  | arr each => exact areReadable_of_writable each
  | obj each => exact haveReadable_of_writable each
  | _ => rfl

lemma areReadable_of_writable {height : Nat} {items : List Json}
    (h : ∀ item ∈ items, Writable height item) : areReadable items = true := by
  cases items with
  | nil => rfl
  | cons item items =>
      obtain ⟨hitem, hitems⟩ := List.forall_mem_cons.1 h
      rw [areReadable, hitem.isReadable, areReadable_of_writable hitems]
      rfl

lemma haveReadable_of_writable {height : Nat} {members : List (String × Json)}
    (h : ∀ member ∈ members, Writable height member.2) : haveReadable members = true := by
  cases members with
  | nil => rfl
  | cons member members =>
      obtain ⟨hmember, hmembers⟩ := List.forall_mem_cons.1 h
      rw [haveReadable, hmember.isReadable, haveReadable_of_writable hmembers]
      rfl

end

/-- The variant of a record and its other members. -/
lemma tagged?_tag (height : Nat) {name variant : String} {members : List (String × Json)}
    (hname : ∀ member ∈ members, member.1 ≠ name)
    (hwritable : ∀ member ∈ members, Writable height member.2) :
    tagged? name (tag name variant members) = some (variant, .obj members) := by
  have hothers : ((name, Json.str variant) :: members).filter (fun member => member.1 != name) =
      members := by
    rw [List.filter_cons_of_neg (by simp), List.filter_eq_self]
    intro member hmember
    simpa using hname member hmember
  have hcount : occurrences name ((name, Json.str variant) :: members) = 1 := by
    have hnone : members.countP (fun member => member.1 == name) = 0 := by
      rw [List.countP_eq_zero]
      intro member hmember
      simpa using hname member hmember
    rw [occurrences, List.countP_cons_of_pos (by simp), hnone]
  have hslot : memberSlot ((name, Json.str variant) :: members) name = .given (.str variant) := by
    rw [memberSlot_cons, if_pos rfl]
  simp [tagged?, tag, hothers, hcount, hslot, haveReadable_of_writable hwritable]

end Tabletop.Json
