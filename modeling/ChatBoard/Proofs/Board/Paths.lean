import ChatBoard.Board.Route
import ChatBoard.Proofs.Octets

/-!
# The paths of the routes

A path leads to a route just when it is written as the route's own one: a solidus and a name, or a
solidus, a name, another solidus and a part that is not empty and has no solidus. `Route.of_ofPath?`
reads the path off the route, and `Route.ofPath?_fixed_iff` and `Route.ofPath?_withPart` lead from
the path to the route. Without a part, or with more than one, a path leads nowhere
(`Route.ofPath?_withPart_none`).
-/

namespace ChatBoard

/-- What stands between separators has no separator. -/
theorem not_mem_of_mem_splitOn {α : Type} [BEq α] [LawfulBEq α] {sep : α} {xs : List α} :
    ∀ piece ∈ xs.splitOn sep, sep ∉ piece := by
  induction xs with
  | nil =>
    intro piece h
    rw [List.splitOn_nil, List.mem_singleton] at h
    rw [h]
    exact List.not_mem_nil
  | cons x rest ih =>
    rw [List.splitOn_cons_eq_if_modifyHead]
    split
    · intro piece h
      rcases List.mem_cons.1 h with rfl | h
      · exact List.not_mem_nil
      · exact ih piece h
    next hx =>
      -- The first octet goes into the first piece, and it is no separator.
      obtain ⟨first, more, hsplit⟩ := List.exists_cons_of_ne_nil (List.splitOn_ne_nil sep rest)
      rw [hsplit] at ih ⊢
      intro piece h
      rcases List.mem_cons.1 h with rfl | h
      · intro hmem
        rcases List.mem_cons.1 hmem with rfl | hmem
        · exact hx (beq_self_eq_true sep)
        · exact ih first List.mem_cons_self hmem
      · exact ih piece (List.mem_cons_of_mem _ h)

namespace Route

/-- The octets of a path with one name. -/
theorem ofText_path (name : String) :
    Octets.ofText ("/" ++ name) = 0x2f :: Octets.ofText name := Octets.ofText_append "/" name

/-- A value that is found under a name stands under it. -/
theorem of_lookUp {α : Type} {name : Octets} {table : List (String × α)} {value : α}
    (h : lookUp name table = some value) :
    ∃ key, (key, value) ∈ table ∧ Octets.ofText key = name := by
  unfold lookUp at h
  obtain ⟨entry, hfind, rfl⟩ := Option.map_eq_some_iff.1 h
  refine ⟨entry.1, List.mem_of_find?_eq_some hfind, ?_⟩
  exact eq_of_beq (List.find?_some (p := fun e : String × α => Octets.ofText e.1 == name) hfind)

/-- A path that leads to a route is that of the route. -/
theorem of_ofPath? {path : Octets} {route : Route} (h : ofPath? path = some route) :
    (∃ name, (name, route) ∈ fixed ∧ path = 0x2f :: Octets.ofText name)
      ∨ ∃ name toRoute part, (name, toRoute) ∈ withPart ∧ part ≠ [] ∧ 0x2f ∉ part
          ∧ route = toRoute part ∧ path = 0x2f :: (Octets.ofText name ++ 0x2f :: part) := by
  have hpath : [0x2f].intercalate (path.splitOn 0x2f) = path := List.intercalate_splitOn 0x2f
  unfold ofPath? at h
  split at h
  next name hsplit =>
    obtain ⟨key, hkey, rfl⟩ := of_lookUp h
    rw [hsplit] at hpath
    exact .inl ⟨key, hkey, by simpa using hpath.symm⟩
  next name part hsplit =>
    have hpart : 0x2f ∉ part := not_mem_of_mem_splitOn part (by rw [hsplit]; simp)
    split at h
    · cases h
    next hne =>
      obtain ⟨toRoute, hlook, rfl⟩ := Option.map_eq_some_iff.1 h
      obtain ⟨key, hkey, rfl⟩ := of_lookUp hlook
      rw [hsplit] at hpath
      exact .inr ⟨key, toRoute, part, hkey, fun hnil => hne (List.isEmpty_iff.2 hnil), hpart, rfl,
        by simpa using hpath.symm⟩
  · cases h

/-- The path of a route without a part. -/
theorem ofPath?_fixed_iff (name : String) {route : Route} (h : (name, route) ∈ fixed)
    {path : Octets} : ofPath? path = some route ↔ path = Octets.ofText ("/" ++ name) := by
  rw [ofText_path]
  constructor
  · intro hroute
    have hone : ∀ x ∈ fixed, ∀ y ∈ fixed, x.2 = y.2 → x.1 = y.1 := by decide
    rcases of_ofPath? hroute with ⟨name', h', hpath⟩ | ⟨name', toRoute, part, h', -, -, rfl, -⟩
    · obtain rfl : name' = name := hone _ h' _ h rfl
      exact hpath
    · -- No route with a part is among those without.
      simp only [withPart, List.mem_cons, List.not_mem_nil, or_false, Prod.mk.injEq] at h'
      rcases h' with ⟨-, rfl⟩ | ⟨-, rfl⟩ | ⟨-, rfl⟩ | ⟨-, rfl⟩ <;> simp [fixed] at h
  · rintro rfl
    have hplain : ∀ x ∈ fixed, 0x2f ∉ Octets.ofText x.1 := by decide
    have hfound : ∀ x ∈ fixed, lookUp (Octets.ofText x.1) fixed = some x.2 := by decide
    have hsplit : (0x2f :: Octets.ofText name).splitOn 0x2f = [[], Octets.ofText name] := by
      rw [← List.nil_append (0x2f :: _), List.splitOn_append_cons_self_of_not_mem List.not_mem_nil,
        List.splitOn_eq_singleton (hplain _ h)]
    unfold ofPath?
    rw [hsplit]
    exact hfound _ h

/-- The path of a route with a part leads to it. -/
theorem ofPath?_withPart (name : String) {toRoute : Octets → Route}
    (h : (name, toRoute) ∈ withPart) {part : Octets} (hne : part ≠ []) (hpart : 0x2f ∉ part) :
    ofPath? (Octets.ofText ("/" ++ name ++ "/") ++ part) = some (toRoute part) := by
  have hplain : ∀ x ∈ withPart, 0x2f ∉ Octets.ofText x.1 := by decide
  have hpath : Octets.ofText ("/" ++ name ++ "/") ++ part
      = [] ++ 0x2f :: (Octets.ofText name ++ 0x2f :: part) := by
    rw [Octets.ofText_append, ofText_path]
    simp [show Octets.ofText "/" = [0x2f] from rfl]
  have hfound : lookUp (Octets.ofText name) withPart = some toRoute := by
    simp only [withPart, List.mem_cons, List.not_mem_nil, or_false, Prod.mk.injEq] at h
    rcases h with ⟨rfl, rfl⟩ | ⟨rfl, rfl⟩ | ⟨rfl, rfl⟩ | ⟨rfl, rfl⟩ <;> rfl
  unfold ofPath?
  rw [hpath, List.splitOn_append_cons_self_of_not_mem List.not_mem_nil,
    List.splitOn_append_cons_self_of_not_mem (hplain _ h), List.splitOn_eq_singleton hpart]
  dsimp only
  rw [if_neg (fun hnil => hne (List.isEmpty_iff.1 hnil)), hfound]
  rfl

/-- Octets are put together in one way from what has no separator, a separator and the rest. -/
theorem cons_eq_cons_of_not_mem {sep : UInt8} {before before' after after' : Octets}
    (h : sep ∉ before) (h' : sep ∉ before')
    (heq : before ++ sep :: after = before' ++ sep :: after') :
    before = before' ∧ after = after' := by
  have hcut := congrArg (Octets.cutAt sep) heq
  rw [Octets.cutAt_append_cons h, Octets.cutAt_append_cons h', Prod.mk.injEq,
    Option.some.injEq] at hcut
  exact hcut

/-- Without a part, or with one that has a solidus, the path of a route with a part leads
nowhere. -/
theorem ofPath?_withPart_none (name : String) {toRoute : Octets → Route}
    (h : (name, toRoute) ∈ withPart) {part : Octets} (hpart : part = [] ∨ 0x2f ∈ part) :
    ofPath? (Octets.ofText ("/" ++ name ++ "/") ++ part) = none := by
  have hfixed : ∀ x ∈ fixed, 0x2f ∉ Octets.ofText x.1 := by decide
  have hplain : ∀ x ∈ withPart, 0x2f ∉ Octets.ofText x.1 := by decide
  have hpath : Octets.ofText ("/" ++ name ++ "/") ++ part
      = 0x2f :: (Octets.ofText name ++ 0x2f :: part) := by
    rw [Octets.ofText_append, ofText_path]
    simp [show Octets.ofText "/" = [0x2f] from rfl]
  refine Option.eq_none_iff_forall_not_mem.2 fun route hroute => ?_
  rw [hpath] at hroute
  rcases of_ofPath? hroute with ⟨name', h', heq⟩ | ⟨name', toRoute', part', h', hne, hno, -, heq⟩
  · -- A path without a part has only the solidus in front.
    refine hfixed _ h' ?_
    rw [← (List.cons.inj heq).2]
    exact List.mem_append_right _ List.mem_cons_self
  · obtain ⟨-, rfl⟩ := cons_eq_cons_of_not_mem (hplain _ h) (hplain _ h') (List.cons.inj heq).2
    rcases hpart with hnil | hmem
    · exact hne hnil
    · exact hno hmem

end Route

end ChatBoard
