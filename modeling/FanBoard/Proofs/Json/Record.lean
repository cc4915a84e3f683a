import FanBoard.Json.Record
import FanBoard.Proofs.Text.Utf16
import Mathlib.Data.List.Nodup
import Mathlib.Tactic.SplitIfs

/-!
# What a record gives to its fields

A record in a document gives values to some of its fields, and the result depends on nothing else.

* `Json.given?` is the value that a record gives to a name, and `IsRecord` says when there is at
  most one for each name: the two ways to write a record are told apart only here.
* `Field.fill` puts the given values into a record in the order of the fields.
* `Field.Apart`: two fields can be put in either order.
* `Field.Unread` is what the members after some others have to be like, and both directions of the
  result go over them one by one.
* `Field.record?_eq_some_iff`: a record is read exactly if it is one and its values can be put.
* `Field.record?_congr`: records that give the same values are read alike.
* `Rewritten.sameRecord`: the order of the members, members of other names, and the choice between
  an object and an array make no difference.
-/

namespace FanBoard.Json

/-! ## Entries -/

/-- Whether a member has the name. -/
def isNamed (name : String) (m : List UInt16 × Json) : Bool :=
  Utf16.decode? m.1 == some name.toList

/-- The first value under a name. -/
def member? (ms : List (List UInt16 × Json)) (name : String) : Option Json :=
  (ms.find? (isNamed name)).map (·.2)

/-- The item in the place of a name. -/
def item? (names : List String) (items : List Json) (name : String) : Option Json :=
  (names.zip items).lookup name

/-- The value that a record of the named fields gives to one of them. -/
def given? (names : List String) : Json → String → Option Json
  | .object ms, name => member? ms name
  | .array items, name => item? names items name
  | _, _ => none

/-- A record of the named fields: an object whose keys are texts, with none of the names twice, or
an array with no more items than there are names. -/
def IsRecord (names : List String) : Json → Prop
  | .object ms =>
    (∀ m ∈ ms, (Utf16.decode? m.1).isSome) ∧ ∀ name ∈ names, ms.countP (isNamed name) ≤ 1
  | .array items => items.length ≤ names.length
  | _ => False

/-- One of the names stands twice in an object. -/
def NamesTwice (names : List String) : Json → Prop
  | .object ms => ∃ name ∈ names, 2 ≤ ms.countP (isNamed name)
  | _ => False

theorem NamesTwice.not_isRecord {names : List String} {j : Json} (h : NamesTwice names j) :
    ¬IsRecord names j := by
  cases j with
  | object ms =>
    obtain ⟨name, hname, htwice⟩ := h
    exact fun hrecord => absurd (hrecord.2 name hname) (by omega)
  | null | bool b | number l | text us | array items => exact h.elim

/-- Two records that give each name the same value, or none. -/
structure SameRecord (names : List String) (same : String → Json → Json → Prop) (j j' : Json) :
    Prop where
  left : IsRecord names j
  right : IsRecord names j'
  entries : ∀ name ∈ names, Option.Rel (same name) (j.given? names name) (j'.given? names name)

theorem rel_self {r : Json → Json → Prop} (h : ∀ j, r j j) (entry : Option Json) :
    Option.Rel r entry entry := by
  cases entry with
  | none => exact .none
  | some j => exact .some (h j)

section

variable {name name' : String} {m : List UInt16 × Json} {ms : List (List UInt16 × Json)}

theorem item?_nil {names : List String} : item? names [] name = none := by
  rw [item?, List.zip_nil_right, List.lookup_nil]

theorem item?_cons_self {names : List String} {j : Json} {items : List Json} :
    item? (name :: names) (j :: items) name = some j := by
  rw [item?, List.zip_cons_cons, List.lookup_cons, beq_self_eq_true]

theorem item?_cons_of_ne {names : List String} {j : Json} {items : List Json}
    (h : name ≠ name') : item? (name' :: names) (j :: items) name = item? names items name := by
  rw [item?, List.zip_cons_cons, List.lookup_cons, beq_eq_false_iff_ne.mpr h, item?]

theorem isNamed_eq (h : isNamed name m = true) : isNamed name' m = (name == name') := by
  rw [isNamed, beq_iff_eq] at h
  rw [Bool.eq_iff_iff, isNamed, h, beq_iff_eq, beq_iff_eq, Option.some.injEq, String.toList_inj]

theorem isNamed_ofList {cs : List Char} (h : Utf16.decode? m.1 = some cs) :
    isNamed (String.ofList cs) m = true := by
  rw [isNamed, h, String.toList_ofList, beq_self_eq_true]

/-- One member more under its name. -/
theorem countP_isNamed {cs : List Char} (h : Utf16.decode? m.1 = some cs) (name : String) :
    (m :: ms).countP (isNamed name) =
      ms.countP (isNamed name) + if String.ofList cs = name then 1 else 0 := by
  rw [List.countP_cons, isNamed_eq (isNamed_ofList h)]
  simp only [beq_iff_eq]

theorem member?_cons (name : String) :
    member? (m :: ms) name = if isNamed name m then some m.2 else member? ms name := by
  rw [member?, List.find?_cons]
  cases isNamed name m <;> rfl

theorem member?_cons_of_ne {cs : List Char} (h : Utf16.decode? m.1 = some cs)
    (hne : name ≠ String.ofList cs) : member? (m :: ms) name = member? ms name := by
  rw [member?_cons, isNamed_eq (isNamed_ofList h), beq_eq_false_iff_ne.mpr hne.symm]
  rfl

theorem member?_eq_none (h : ms.countP (isNamed name) = 0) : member? ms name = none := by
  rw [member?, List.find?_eq_none.mpr (List.countP_eq_zero.mp h)]
  rfl

end

/-! ## Names in their order -/

section

variable {names : List String} {name : String}

theorem isNamed_encode (name name' : String) (j : Json) :
    isNamed name (Utf16.encode name', j) = (name' == name) :=
  isNamed_eq (by rw [isNamed, Utf16.decode?_encode, beq_self_eq_true])

/-- A value is found as in the list of names and values. -/
theorem given?_ofMembers (names : List String) (members : List (String × Json)) (name : String) :
    given? names (.ofMembers members) name = members.lookup name := by
  show member? (members.map _) name = _
  induction members with
  | nil => rfl
  | cons member members ih =>
    obtain ⟨name', j⟩ := member
    rw [List.map_cons, member?_cons, isNamed_encode, ih, List.lookup_cons, Bool.beq_comm]
    cases name == name' <;> rfl

theorem countP_map (members : List (String × Json)) (name : String) :
    (members.map fun (name, value) => (Utf16.encode name, value)).countP (isNamed name) =
      (members.map (·.1)).count name := by
  rw [List.countP_map, List.count, List.countP_map]
  exact List.countP_congr fun member _ => by simp only [Function.comp_apply, isNamed_encode]

/-- An object that is written with different names is a record. -/
theorem isRecord_ofMembers (names : List String) {members : List (String × Json)}
    (h : (members.map (·.1)).Nodup) : IsRecord names (.ofMembers members) := by
  refine ⟨fun m hm => ?_, fun name _ => ?_⟩
  · obtain ⟨⟨name, j⟩, -, rfl⟩ := List.mem_map.mp hm
    rw [Utf16.decode?_encode]
    rfl
  · rw [countP_map]
    exact List.nodup_iff_count_le_one.mp h name

theorem zip_sublist (names : List String) (items : List Json) :
    ((names.zip items).map (·.1)).Sublist names := by
  induction names generalizing items with
  | nil => exact .slnil
  | cons name names ih =>
    cases items with
    | nil => exact List.nil_sublist _
    | cons item items => exact (ih items).cons_cons name

/-- Whether a member has one of the names. -/
def isKnown (names : List String) (m : List UInt16 × Json) : Bool :=
  names.any fun name => isNamed name m

/-- Other ways to write a record. -/
inductive Rewritten (names : List String) : Json → Json → Prop
  /-- The known members in any order, with any members of other names between them. -/
  | object {ms ms' : List (List UInt16 × Json)} (h : IsRecord names (.object ms))
      (hkeys : ∀ m ∈ ms', (Utf16.decode? m.1).isSome)
      (hperm : (ms.filter (isKnown names)).Perm (ms'.filter (isKnown names))) :
      Rewritten names (.object ms) (.object ms')
  /-- The values of the first fields, without and with the names. -/
  | array {items : List Json} (hlength : items.length ≤ names.length) :
      Rewritten names (.array items) (.ofMembers (names.zip items))

/-- Only the known members of an object have one of the names. -/
theorem filter_isNamed (hname : name ∈ names) (ms : List (List UInt16 × Json)) :
    (ms.filter (isKnown names)).filter (isNamed name) = ms.filter (isNamed name) := by
  rw [List.filter_filter]
  refine List.filter_congr fun m _ => ?_
  cases hm : isNamed name m with
  | false => rfl
  | true => exact List.any_eq_true.mpr ⟨name, hname, hm⟩

/-- A record that is written in another way gives the same. -/
theorem Rewritten.sameRecord {j j' : Json} (h : Rewritten names j j') (hnames : names.Nodup)
    {same : String → Json → Json → Prop} (hsame : ∀ name j, same name j j) :
    SameRecord names same j j' := by
  cases h with
  | @object ms ms' hrecord hkeys hperm =>
    have hfilter (name : String) (hname : name ∈ names) :
        ms.filter (isNamed name) = ms'.filter (isNamed name) := by
      have hperm := hperm.filter (isNamed name)
      rw [filter_isNamed hname, filter_isNamed hname] at hperm
      have hlength : (ms.filter (isNamed name)).length ≤ 1 :=
        List.countP_eq_length_filter ▸ hrecord.2 name hname
      generalize ms.filter (isNamed name) = found at hperm hlength
      match found, hlength with
      | [], _ => exact hperm.nil_eq
      | [m], _ => exact hperm.singleton_eq
    refine ⟨hrecord, ⟨hkeys, fun name hname => ?_⟩, fun name hname => ?_⟩
    · rw [List.countP_eq_length_filter, ← hfilter name hname, ← List.countP_eq_length_filter]
      exact hrecord.2 name hname
    · rw [given?, given?, member?, member?, ← List.head?_filter, ← List.head?_filter,
        hfilter name hname]
      exact rel_self (hsame name) _
  | @array items hlength =>
    refine ⟨hlength, isRecord_ofMembers names (hnames.sublist (zip_sublist names items)),
      fun name _ => ?_⟩
    rw [given?_ofMembers, given?, ← item?]
    exact rel_self (hsame name) _

end

/-! ## Filling a record -/

namespace Field

variable {α : Type}

/-- Two fields can be put in either order. -/
def Apart (f g : Field α) : Prop :=
  ∀ j j' a, (f.put j a).bind (g.put j') = (g.put j' a).bind (f.put j)

/-- Fields whose values are set one beside the other. -/
theorem Apart.of_set {β γ : Type} {f g : Field α} {read : Json → Option β} {set : β → α → α}
    {read' : Json → Option γ} {set' : γ → α → α}
    (hf : f.put = fun j a => (read j).map (set · a))
    (hg : g.put = fun j a => (read' j).map (set' · a))
    (h : ∀ x y a, set' y (set x a) = set x (set' y a)) : Apart f g := by
  intro j j' a
  simp only [hf, hg]
  cases read j <;> cases read' j' <;> simp [h]

/-- Puts the value that is given for a field, if there is one. -/
def putGiven (given : String → Option Json) (f : Field α) (a : α) : Option α :=
  match given f.name with
  | some j => f.put j a
  | none => some a

/-- Puts the given values into a record in the order of the fields. -/
def fill (given : String → Option Json) : List (Field α) → α → Option α
  | [], a => some a
  | f :: fields, a => (f.putGiven given a).bind (fill given fields)

section

variable {given given' : String → Option Json} {fields : List (Field α)} {f : Field α}

theorem putGiven_of_some {j : Json} (h : given f.name = some j) :
    f.putGiven given = f.put j := by
  funext a
  rw [putGiven, h]

theorem putGiven_of_none (h : given f.name = none) : f.putGiven given = some := by
  funext a
  rw [putGiven, h]

/-- Values that are put alike fill alike. -/
theorem fill_congr
    (h : ∀ f ∈ fields, Option.Rel (fun j j' => f.put j = f.put j') (given f.name) (given' f.name)) :
    fill given fields = fill given' fields := by
  induction fields with
  | nil => rfl
  | cons f fields ih =>
    rw [List.forall_mem_cons] at h
    funext a
    have hput : f.putGiven given = f.putGiven given' := by
      have hvalue := h.1
      funext a
      rw [putGiven, putGiven]
      generalize given f.name = value, given' f.name = value' at hvalue
      cases hvalue with
      | some hj => exact congrFun hj a
      | none => rfl
    rw [fill, fill, hput, ih h.2]

theorem fill_congr_eq (h : ∀ f ∈ fields, given f.name = given' f.name) :
    fill given fields = fill given' fields :=
  fill_congr fun f hf => by
    rw [h f hf]
    refine rel_self ?_ _
    exact fun _ => rfl

theorem fill_of_none (h : ∀ f ∈ fields, given f.name = none) : fill given fields = some := by
  induction fields with
  | nil => rfl
  | cons f fields ih =>
    rw [List.forall_mem_cons] at h
    funext a
    rw [fill, putGiven_of_none h.1, Option.bind_some, ih h.2]

/-- A value can be put first instead of in its turn. -/
theorem fill_first {j : Json} (hf : f ∈ fields) (hnames : (fields.map (·.name)).Nodup)
    (hapart : fields.Pairwise Apart) (hgiven : given f.name = some j)
    (hnone : given' f.name = none)
    (hrest : ∀ g ∈ fields, g.name ≠ f.name → given g.name = given' g.name) (a : α) :
    fill given fields a = (f.put j a).bind (fill given' fields) := by
  induction fields generalizing a with
  | nil => cases hf
  | cons g fields ih =>
    rw [List.map_cons, List.nodup_cons] at hnames
    rw [List.pairwise_cons] at hapart
    rw [fill]
    by_cases hname : g.name = f.name
    · -- the field is the first one, and the others are given the same
      have hne : ∀ g' ∈ fields, g'.name ≠ f.name := fun g' hg' heq =>
        hnames.1 (hname ▸ heq ▸ List.mem_map_of_mem hg')
      have hfg : f = g := by
        rcases List.mem_cons.mp hf with rfl | hmem
        · rfl
        · exact absurd rfl (hne f hmem)
      subst hfg
      rw [putGiven_of_some hgiven, fill_congr_eq fun g' hg' =>
        hrest g' (List.mem_cons_of_mem _ hg') (hne g' hg')]
      exact Option.bind_congr fun b _ => by
        rw [fill, putGiven_of_none hnone, Option.bind_some]
    · have hmem : f ∈ fields := by
        rcases List.mem_cons.mp hf with rfl | hmem
        · exact absurd rfl hname
        · exact hmem
      have hput : g.putGiven given = g.putGiven given' := by
        funext b
        rw [putGiven, putGiven, hrest g List.mem_cons_self hname]
      have hswap : (g.putGiven given' a).bind (f.put j) = (f.put j a).bind (g.putGiven given') := by
        cases hg : given' g.name with
        | none => rw [putGiven_of_none hg, Option.bind_some, Option.bind_fun_some]
        | some j' => rw [putGiven_of_some hg, hapart.1 f hmem]
      have hih := ih hmem hnames.2 hapart.2 fun g' hg' => hrest g' (List.mem_cons_of_mem _ hg')
      calc (g.putGiven given a).bind (fill given fields)
          = (g.putGiven given' a).bind fun b => (f.put j b).bind (fill given' fields) := by
            rw [hput]
            exact Option.bind_congr fun b _ => hih b
        _ = ((f.put j a).bind (g.putGiven given')).bind (fill given' fields) := by
            rw [← Option.bind_assoc, hswap]
        _ = (f.put j a).bind (fill given' (g :: fields)) := by
            rw [Option.bind_assoc]
            rfl

/-- Every given value could be put. -/
theorem put_of_fill {a b : α} (h : fill given fields a = some b) :
    ∀ f ∈ fields, ∀ j, given f.name = some j → ∃ a' b', f.put j a' = some b' := by
  induction fields generalizing a with
  | nil => exact nofun
  | cons g fields ih =>
    rw [fill, Option.bind_eq_some_iff] at h
    obtain ⟨b', hput, hfill⟩ := h
    refine List.forall_mem_cons.mpr ⟨fun j hj => ?_, ih hfill⟩
    rw [putGiven_of_some hj] at hput
    exact ⟨a, b', hput⟩

end

/-! ## Reading a record -/

/-- The field that is found under a name. -/
theorem find?_eq_some {fields : List (Field α)} {name : String} {f : Field α}
    (h : fields.find? (fun f => f.name == name) = some f) : f ∈ fields ∧ f.name = name :=
  ⟨List.mem_of_find?_eq_some h, by simpa using List.find?_some h⟩

/-- No field is found under an unknown name. -/
theorem find?_eq_none {fields : List (Field α)} {name : String}
    (h : fields.find? (fun f => f.name == name) = none) : ∀ f ∈ fields, f.name ≠ name := by
  simpa using h

/-- The items of an array are put in the order of the fields. -/
theorem ofItems_eq_fill {fields : List (Field α)} (hnames : (fields.map (·.name)).Nodup)
    {items : List Json} (hlength : items.length ≤ fields.length) (a : α) :
    ofItems fields a items = fill (item? (fields.map (·.name)) items) fields a := by
  induction fields generalizing items a with
  | nil =>
    obtain rfl := List.length_eq_zero_iff.mp (Nat.le_zero.mp hlength)
    rfl
  | cons f fields ih =>
    rw [List.map_cons, List.nodup_cons] at hnames
    cases items with
    | nil =>
      rw [ofItems, fill_of_none fun _ _ => item?_nil]
    | cons item items =>
      have hrest (g : Field α) (hg : g ∈ fields) :
          item? (f.name :: fields.map (·.name)) (item :: items) g.name =
            item? (fields.map (·.name)) items g.name :=
        item?_cons_of_ne fun heq => hnames.1 (heq ▸ List.mem_map_of_mem hg)
      rw [List.map_cons, ofItems, fill, fill_congr_eq hrest, putGiven_of_some item?_cons_self]
      exact Option.bind_congr fun b _ => ih hnames.2 (Nat.le_of_succ_le_succ hlength) b

/-- Members that can be read after others.  Their keys are texts, and each field is named at most
once, but for the fields seen before, which are not named again. -/
structure Unread (fields : List (Field α)) (seen : List String)
    (ms : List (List UInt16 × Json)) : Prop where
  keys : ∀ m ∈ ms, (Utf16.decode? m.1).isSome
  once : ∀ f ∈ fields, ms.countP (isNamed f.name) ≤ 1
  fresh : ∀ f ∈ fields, f.name ∈ seen → ms.countP (isNamed f.name) = 0

section

variable {fields : List (Field α)} {seen : List String} {m : List UInt16 × Json}
  {ms : List (List UInt16 × Json)} {cs : List Char} (hcs : Utf16.decode? m.1 = some cs)

include hcs

theorem keys_cons_iff : (∀ m' ∈ m :: ms, (Utf16.decode? m'.1).isSome = true) ↔
    ∀ m' ∈ ms, (Utf16.decode? m'.1).isSome = true := by
  rw [List.forall_mem_cons, hcs, Option.isSome_some, eq_self_iff_true, true_and]

/-- A member of another name makes no difference. -/
theorem unread_unknown (h : ∀ f ∈ fields, f.name ≠ String.ofList cs) :
    Unread fields seen (m :: ms) ↔ Unread fields seen ms := by
  have hcount (f : Field α) (hf : f ∈ fields) :
      (m :: ms).countP (isNamed f.name) = ms.countP (isNamed f.name) := by
    rw [countP_isNamed hcs, if_neg (h f hf).symm, Nat.add_zero]
  constructor
  · intro hread
    exact
      { keys := (keys_cons_iff hcs).mp hread.keys
        once := fun f hf => hcount f hf ▸ hread.once f hf
        fresh := fun f hf hmem => hcount f hf ▸ hread.fresh f hf hmem }
  · intro hread
    exact
      { keys := (keys_cons_iff hcs).mpr hread.keys
        once := fun f hf => (hcount f hf).symm ▸ hread.once f hf
        fresh := fun f hf hmem => (hcount f hf).symm ▸ hread.fresh f hf hmem }

/-- A member with the name of a field is the only one. -/
theorem unread_known {f : Field α} (hf : f ∈ fields) (hname : f.name = String.ofList cs) :
    Unread fields seen (m :: ms) ↔
      String.ofList cs ∉ seen ∧ Unread fields (String.ofList cs :: seen) ms := by
  have hcount (g : Field α) : (m :: ms).countP (isNamed g.name) =
      ms.countP (isNamed g.name) + if String.ofList cs = g.name then 1 else 0 :=
    countP_isNamed hcs g.name
  constructor
  · intro hread
    have hnot : String.ofList cs ∉ seen := by
      intro hmem
      have hzero := hread.fresh f hf (hname ▸ hmem)
      rw [hcount, if_pos hname.symm] at hzero
      exact Nat.succ_ne_zero _ hzero
    refine ⟨hnot, (keys_cons_iff hcs).mp hread.keys, fun g hg => ?_, fun g hg hmem => ?_⟩
    · have honce := hread.once g hg
      rw [hcount] at honce
      omega
    · rcases List.mem_cons.mp hmem with heq | hmem
      · have honce := hread.once g hg
        rw [hcount, if_pos heq.symm] at honce
        omega
      · have hzero := hread.fresh g hg hmem
        rw [hcount] at hzero
        omega
  · rintro ⟨hnot, hread⟩
    refine ⟨(keys_cons_iff hcs).mpr hread.keys, fun g hg => ?_, fun g hg hmem => ?_⟩
    · rw [hcount]
      split_ifs with heq
      · exact Nat.succ_le_succ (Nat.le_of_eq (hread.fresh g hg (heq ▸ List.mem_cons_self)))
      · exact hread.once g hg
    · have hne : String.ofList cs ≠ g.name := fun heq => hnot (heq ▸ hmem)
      rw [hcount, if_neg hne, hread.fresh g hg (List.mem_cons_of_mem _ hmem)]

end

/-- The members of an object are put in their order, which makes no difference. -/
theorem ofMembers_eq_fill {fields : List (Field α)} (hnames : (fields.map (·.name)).Nodup)
    (hapart : fields.Pairwise Apart) {seen : List String} {ms : List (List UInt16 × Json)}
    (h : Unread fields seen ms) (a : α) :
    ofMembers fields seen a ms = fill (member? ms) fields a := by
  induction ms generalizing seen a with
  | nil => rw [ofMembers, fill_of_none fun _ _ => rfl]
  | cons m ms ih =>
    obtain ⟨key, value⟩ := m
    obtain ⟨cs, hcs⟩ := Option.isSome_iff_exists.mp (h.keys (key, value) List.mem_cons_self)
    simp only [ofMembers, hcs, Option.bind_eq_bind, Option.bind_some]
    cases hfind : fields.find? (fun f => f.name == String.ofList cs) with
    | none =>
      have hunknown := find?_eq_none hfind
      rw [fill_congr_eq fun f hf => member?_cons_of_ne hcs (hunknown f hf)]
      exact ih ((unread_unknown hcs hunknown).mp h) a
    | some f =>
      obtain ⟨hf, hname⟩ := find?_eq_some hfind
      obtain ⟨hnot, hrest⟩ := (unread_known hcs hf hname).mp h
      have hgiven : member? ((key, value) :: ms) f.name = some value := by
        rw [member?_cons, hname, isNamed_ofList hcs, if_pos rfl]
      have hnone : member? ms f.name = none :=
        member?_eq_none (hrest.fresh f hf (hname ▸ List.mem_cons_self))
      rw [fill_first hf hnames hapart hgiven hnone fun g _ hne =>
        member?_cons_of_ne hcs (hname ▸ hne)]
      simp only [List.contains_iff_mem, hnot, if_false]
      exact Option.bind_congr fun b _ => ih hrest b

/-- An object that is read names no field twice. -/
theorem unread_of_ofMembers {fields : List (Field α)} {seen : List String} {a b : α}
    {ms : List (List UInt16 × Json)} (h : ofMembers fields seen a ms = some b) :
    Unread fields seen ms := by
  induction ms generalizing seen a with
  | nil => exact ⟨nofun, fun _ _ => Nat.zero_le 1, fun _ _ _ => rfl⟩
  | cons m ms ih =>
    obtain ⟨key, value⟩ := m
    simp only [ofMembers, Option.bind_eq_bind, Option.bind_eq_some_iff] at h
    obtain ⟨cs, hcs, h⟩ := h
    cases hfind : fields.find? (fun f => f.name == String.ofList cs) with
    | none =>
      simp only [hfind] at h
      exact (unread_unknown hcs (find?_eq_none hfind)).mpr (ih h)
    | some f =>
      obtain ⟨hf, hname⟩ := find?_eq_some hfind
      simp only [hfind] at h
      split at h
      · cases h
      · rename_i hcontains
        obtain ⟨a', -, h⟩ := Option.bind_eq_some_iff.mp h
        rw [List.contains_iff_mem] at hcontains
        exact (unread_known hcs hf hname).mpr ⟨hcontains, ih h⟩

theorem length_of_ofItems {fields : List (Field α)} {a b : α} {items : List Json}
    (h : ofItems fields a items = some b) : items.length ≤ fields.length := by
  induction fields generalizing a items with
  | nil =>
    cases items with
    | nil => exact Nat.le_refl 0
    | cons item items => cases h
  | cons f fields ih =>
    cases items with
    | nil => exact Nat.zero_le _
    | cons item items =>
      obtain ⟨a', -, h⟩ := Option.bind_eq_some_iff.mp h
      exact Nat.succ_le_succ (ih h)

section

variable {fields : List (Field α)} (hnames : (fields.map (·.name)).Nodup)
  (hapart : fields.Pairwise Apart)

include hnames hapart

/-- A record is read by putting the values that it gives. -/
theorem record?_eq_fill {j : Json} (h : IsRecord (fields.map (·.name)) j) (a : α) :
    record? fields a j = fill (j.given? (fields.map (·.name))) fields a := by
  cases j with
  | object ms =>
    have hread : Unread fields [] ms :=
      { keys := h.1
        once := fun f hf => h.2 _ (List.mem_map_of_mem hf)
        fresh := nofun }
    exact ofMembers_eq_fill hnames hapart hread a
  | array items =>
    refine ofItems_eq_fill hnames ?_ a
    rwa [IsRecord, List.length_map] at h
  | null | bool b | number l | text us => exact h.elim

/-- A record is read exactly if it is one and its values can be put. -/
theorem record?_eq_some_iff {j : Json} {a b : α} : record? fields a j = some b ↔
    IsRecord (fields.map (·.name)) j ∧ fill (j.given? (fields.map (·.name))) fields a = some b := by
  have hrecord : record? fields a j = some b → IsRecord (fields.map (·.name)) j := by
    intro h
    cases j with
    | object ms =>
      have hread := unread_of_ofMembers h
      exact ⟨hread.keys, List.forall_mem_map.mpr hread.once⟩
    | array items =>
      rw [IsRecord, List.length_map]
      exact length_of_ofItems h
    | null | bool b | number l | text us => cases h
  refine ⟨fun h => ⟨hrecord h, ?_⟩, fun ⟨h, hfill⟩ => ?_⟩
  · rw [← record?_eq_fill hnames hapart (hrecord h), h]
  · rw [record?_eq_fill hnames hapart h, hfill]

/-- Records that give the same values, up to how a value is put, are read alike. -/
theorem record?_congr {same : String → Json → Json → Prop} {j j' : Json}
    (h : SameRecord (fields.map (·.name)) same j j')
    (hsame : ∀ f ∈ fields, ∀ v v', same f.name v v' → f.put v = f.put v') (a : α) :
    record? fields a j = record? fields a j' := by
  rw [record?_eq_fill hnames hapart h.left, record?_eq_fill hnames hapart h.right, fill_congr]
  intro f hf
  have hentry := h.entries f.name (List.mem_map_of_mem hf)
  generalize j.given? _ f.name = value, j'.given? _ f.name = value' at hentry
  cases hentry with
  | some hv => exact .some (hsame f hf _ _ hv)
  | none => exact .none

end

end Field

end FanBoard.Json
