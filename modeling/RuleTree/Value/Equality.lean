import RuleTree.Value.Basic
/-! # Equality of values

    Four relations, from the finest to the coarsest on primitives: equality
    of identities and primitives (`strictlyEquals`), the same with
    not-a-number equal to itself (`sameMember`), equality of contents with
    collections unordered (`deeplyEquals`), and equality of contents in
    order (`matchesInOrder`). -/

namespace RuleTree.Value

/-- Equality of primitives by value and of symbols, callables and promises
    by identity.  Compound values have no identity and equal nothing. -/
def strictlyEquals : Value → Value → Bool
  | undefined, undefined => true
  | null, null => true
  | bool b, bool c => b == c
  | number x, number y => x.equals y
  | bigint m, bigint n => m == n
  | string s, string t => s == t
  | symbol s, symbol t => decide (s = t)
  | function f, function g => decide (f = g)
  | promise i, promise j => i == j
  | _, _ => false

/-- The equality of membership. -/
def sameMember : Value → Value → Bool
  | number x, number y => x.equals y || (x.isNaN && y.isNaN)
  | v, w => strictlyEquals v w

mutual

/-- Equality of contents: arrays item by item, objects field by field in
    any order, and sets and maps by size with a partner in either direction
    for every member or entry. -/
def deeplyEquals : Value → Value → Bool
  | typed a, typed b => a.equals b
  | buffer a, buffer b => a == b
  | view a, view b => a == b
  | date t, date u => decide (t = u)
  | regexp p, regexp q => decide (p = q)
  | array vs, array ws => deeplyEqualsItems vs ws
  | object fs, object gs =>
    fs.length == gs.length && fieldsWithin fs gs && gs.all fun (k, w) => fieldMatches fs k w
  -- both directions are asked, since one member may be the partner of several
  | set vs, set ws =>
    vs.length == ws.length && membersWithin vs ws && ws.all fun w => memberMatches vs w
  | map es, map ds =>
    es.length == ds.length && entriesWithin es ds && ds.all fun (k, w) => entryMatches es k w
  | v, w => strictlyEquals v w
termination_by structural x => x

/-- Equality of contents, item by item. -/
def deeplyEqualsItems : List Value → List Value → Bool
  | [], [] => true
  | v :: vs, w :: ws => deeplyEquals v w && deeplyEqualsItems vs ws
  | _, _ => false
termination_by structural x => x

/-- Whether the first field of this name equals a value. -/
def fieldMatches : List (String × Value) → String → Value → Bool
  | [], _, _ => false
  | (k, v) :: fs, key, w => if k = key then deeplyEquals v w else fieldMatches fs key w
termination_by structural x => x

/-- Whether every field has an equal in the other object. -/
def fieldsWithin : List (String × Value) → List (String × Value) → Bool
  | [], _ => true
  | (k, v) :: fs, gs =>
    (match Fields.get? k gs with
      | some w => deeplyEquals v w
      | none => false) && fieldsWithin fs gs
termination_by structural x => x

/-- Whether some member equals a value. -/
def memberMatches : List Value → Value → Bool
  | [], _ => false
  | v :: vs, w => deeplyEquals v w || memberMatches vs w
termination_by structural x => x

/-- Whether every member has an equal in the other set. -/
def membersWithin : List Value → List Value → Bool
  | [], _ => true
  | v :: vs, ws => ws.any (fun w => deeplyEquals v w) && membersWithin vs ws
termination_by structural x => x

/-- Whether some entry equals an entry. -/
def entryMatches : List (Value × Value) → Value → Value → Bool
  | [], _, _ => false
  | (k, v) :: es, l, w => (deeplyEquals k l && deeplyEquals v w) || entryMatches es l w
termination_by structural x => x

/-- Whether every entry has an equal in the other map. -/
def entriesWithin : List (Value × Value) → List (Value × Value) → Bool
  | [], _ => true
  | (k, v) :: es, ds =>
    ds.any (fun (l, w) => deeplyEquals k l && deeplyEquals v w) && entriesWithin es ds
termination_by structural x => x

end

mutual

/-- Equality of contents with every collection in order. -/
def matchesInOrder : Value → Value → Bool
  | typed a, typed b => a.equals b
  | buffer a, buffer b => a == b
  | view a, view b => a == b
  | date t, date u => decide (t = u)
  | regexp p, regexp q => decide (p = q)
  | array vs, array ws => itemsMatchInOrder vs ws
  | object fs, object gs => fieldsMatchInOrder fs gs
  | set vs, set ws => itemsMatchInOrder vs ws
  | map es, map ds => entriesMatchInOrder es ds
  | v, w => strictlyEquals v w
termination_by structural x => x

/-- Agreement of items, one by one. -/
def itemsMatchInOrder : List Value → List Value → Bool
  | [], [] => true
  | v :: vs, w :: ws => matchesInOrder v w && itemsMatchInOrder vs ws
  | _, _ => false
termination_by structural x => x

/-- Agreement of fields, by name and value and in order. -/
def fieldsMatchInOrder : List (String × Value) → List (String × Value) → Bool
  | [], [] => true
  | (k, v) :: fs, (l, w) :: gs => k == l && matchesInOrder v w && fieldsMatchInOrder fs gs
  | _, _ => false
termination_by structural x => x

/-- Agreement of entries, by key and value and in order. -/
def entriesMatchInOrder : List (Value × Value) → List (Value × Value) → Bool
  | [], [] => true
  | (k, v) :: es, (l, w) :: ds =>
    matchesInOrder k l && matchesInOrder v w && entriesMatchInOrder es ds
  | _, _ => false
termination_by structural x => x

end

end RuleTree.Value
