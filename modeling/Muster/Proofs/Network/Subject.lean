import Muster.Proofs.Network.Kind
import Muster.Proofs.Url.Segment

/-! # What calls are about

A call puts a name into the path of its request, and the worker's routes take it out again. Wherever the routes are
mounted, and whatever stands in the address before them, a request becomes a command about the very name of its call,
or none, as long as nothing in the name is ignored in a path. -/

namespace Muster

open Worker

/-! ### Routes -/

namespace Http

/-- What a piece of a route stands for where `name` is found in the place of the name. -/
def Piece.fill (name : List Char) : Piece → List Char
  | .fixed s => s.toList
  | .name => name

/-- A piece is the place of a name. -/
def Piece.isName (p : Piece) : Bool := p = .name

/-- Without a place for a name it does not matter which is found. -/
theorem map_fill_congr {ps : List Piece} (h : ps.countP Piece.isName = 0) (name name' : List Char) :
    ps.map (Piece.fill name) = ps.map (Piece.fill name') := by
  refine List.map_congr_left fun p hp => ?_
  have hfixed := List.countP_eq_zero.mp h p hp
  cases p with
  | fixed s => rfl
  | name => exact absurd rfl hfixed

/-- The segments that match a route with one name at most are those of the route, with what is found in the name's
place. -/
theorem eq_fill_of_matchPieces {ps : List Piece} {ts : List (List Char)} {name : List Char}
    (hone : ps.countP Piece.isName ≤ 1) (h : matchPieces ps ts = some name) : ts = ps.map (Piece.fill name) := by
  induction ps generalizing ts name with
  | nil =>
    cases ts with
    | nil => rfl
    | cons t ts => cases h
  | cons p ps ih =>
    cases ts with
    | nil => cases p <;> cases ps <;> cases h
    | cons t ts =>
      cases p with
      | fixed s =>
        unfold matchPieces at h
        split at h
        · rename_i ht
          rw [ih (by simpa [Piece.isName] using hone) h, ← ht]
          rfl
        · cases h
      | name =>
        have hnone : ps.countP Piece.isName = 0 := by
          rw [List.countP_cons_of_pos (by rfl)] at hone
          omega
        cases ps with
        | nil =>
          cases ts with
          | nil =>
            unfold matchPieces at h
            split at h
            · cases h
            · obtain rfl := Option.some.inj h
              rfl
          | cons u ts => cases h
        | cons q ps =>
          -- What the pieces behind the name match has no name.
          obtain ⟨name', hrest, rfl⟩ := Option.map_eq_some_iff.mp h
          rw [ih (by omega) hrest, map_fill_congr hnone name' t]
          rfl

theorem split_of_match {α : Type} {route : Route α} {path name : List Char}
    (hone : route.path.countP Piece.isName ≤ 1) (h : route.match? path = some name) :
    ∃ p, path = '/' :: p ∧ Text.split '/' p = route.path.map (Piece.fill name) := by
  unfold Route.match? at h
  split at h
  · exact ⟨_, rfl, eq_fill_of_matchPieces hone h⟩
  · cases h

end Http

theorem split_belowMount {mount : String} {path p : List Char} (h : belowMount mount path = some ('/' :: p)) :
    p = [] ∨ ∃ before, Text.split '/' path = before ++ Text.split '/' p := by
  rcases belowMount_eq_some_iff.mp h with ⟨-, rfl⟩ | ⟨-, r, rfl, ⟨-, hroot⟩ | ⟨rfl, -⟩⟩
  · exact Or.inr ⟨[[]], rfl⟩
  · exact Or.inl (List.cons.inj hroot).2
  · exact Or.inr ⟨_, Text.split_append '/' mount.toList p⟩

/-! ### Commands -/

namespace Worker

variable {secret : String} {r : Http.Request} {c : Command} {headOnly : Bool} {a : Action}

/-- A command comes from the route of its kind: the request's path is that of the route with the name that is read. -/
theorem split_of_handle (h : handle secret r = .command c headOnly) (hkind : c.method = a.method) :
    ∃ route ∈ routes, (∃ y ∈ route.methods, y.2 = a) ∧ ∃ p name, r.path = '/' :: p ∧
      Text.split '/' p = route.path.map (Http.Piece.fill name) ∧ commandOf a name r = .ok c := by
  have oneName : ∀ route ∈ routes, route.path.countP Http.Piece.isName ≤ 1 := by decide
  obtain ⟨-, route, hroute, b, name, hmatch, haction, hcommand⟩ := handle_eq_command h
  have hsame : b.method = a.method := (method_commandOf hcommand).symm.trans hkind
  obtain rfl : b = a := by cases b <;> cases a <;> first | rfl | exact absurd hsame (by decide)
  obtain ⟨p, hp, hpieces⟩ := Http.split_of_match (oneName route hroute) hmatch
  refine ⟨route, hroute, ?_, p, name, hp, hpieces, hcommand⟩
  rcases Http.Route.action?_eq_some haction with ⟨hmem, -⟩ | ⟨-, hmem, -⟩
  · exact ⟨_, hmem, rfl⟩
  · exact ⟨_, hmem, rfl⟩

end Worker

theorem nameOf_encodeSegment (special : Bool) {name : String} (h : ∀ c ∈ name.toList, Url.isIgnored c = false) :
    Http.nameOf (Url.encodeSegment special name.toList) = .ok name := by
  unfold Http.nameOf
  rw [Url.percentDecode_encodeSegment special h, Text.fromUtf8?_utf8]
  exact congrArg Except.ok (String.ofList_toList)

/-! ### Calls -/

/-- A segment that stands in an address as it is. -/
structure Url.StandsAsIs (s : List Char) : Prop where
  plain : ∀ c ∈ s, isIgnored c = false
  stays : isPoints s = false
  encoded : ∀ special, encodeSegment special s = s

theorem Url.map_encodeSegment {tail : List (List Char)} (h : ∀ s ∈ tail, StandsAsIs s) (special : Bool) :
    (tail.filter (!isPoints ·)).map (encodeSegment special) = tail := by
  rw [List.filter_eq_self.mpr fun s hs => by rw [(h s hs).stays]; rfl]
  exact (List.map_congr_left fun s hs => (h s hs).encoded special).trans (List.map_id tail)

variable {α : Type} {call : Call α} {kind name : String} {tail : List String}

/-- The path that a call asks ends with its segments. Of these the name is encoded, or left out if it consists of
points. -/
theorem Call.split_asked {base u : Url} (hsegments : call.segments = "cluster" :: kind :: name :: tail)
    (hfixed : ∀ s ∈ "cluster" :: kind :: tail, Url.StandsAsIs s.toList)
    (hname : ∀ c ∈ name.toList, Url.isIgnored c = false)
    (hu : base.join? (call.segments.map String.toList) = some u) :
    ∃ before, Text.split '/' u.path.print = before ++ "cluster".toList :: kind.toList ::
      ((if Url.isPoints name.toList then [] else [Url.encodeSegment (Url.isSpecial base.scheme) name.toList]) ++
        tail.map String.toList) := by
  obtain ⟨hcluster, hrest⟩ := List.forall_mem_cons.mp hfixed
  obtain ⟨hkind, htail⟩ := List.forall_mem_cons.mp hrest
  have htail : ∀ s ∈ tail.map String.toList, Url.StandsAsIs s := List.forall_mem_map.mpr htail
  rw [hsegments] at hu
  obtain ⟨before, hsplit⟩ := Url.split_join? hu (by decide) hcluster.stays <| by
    simp only [List.map_cons, List.forall_mem_cons]
    exact ⟨hcluster.plain, hkind.plain, hname, fun s hs => (htail s hs).plain⟩
  refine ⟨before, hsplit.trans ?_⟩
  rw [hcluster.encoded, List.map_cons, List.filter_cons_of_pos (by rw [hkind.stays]; rfl), List.map_cons, hkind.encoded,
    List.map_cons, List.filter_cons]
  cases hpoints : Url.isPoints name.toList with
  | true => simp [Url.map_encodeSegment htail]
  | false => simp [Url.map_encodeSegment htail]

/-- A call means a command: a worker that takes its request makes no other command of it. -/
def Call.Means (call : Call α) (c : Command) : Prop :=
  ∀ {client : Client} {o : Outgoing}, client.request call = .ok o →
    ∀ {mount secret : String} {path : List Char} {d : Command} {headOnly : Bool},
      belowMount mount o.request.path = some path →
      handle secret { o.request with path := path } = .command d headOnly → d = c

theorem standsAsIs_of_mem {route : Http.Route Action} (hroute : route ∈ routes) {s : String}
    (hs : .fixed s ∈ route.path) : Url.StandsAsIs s.toList := by
  have table : ∀ route ∈ routes, ∀ p ∈ route.path, p.isName = false →
      (p.fill []).all (!Url.isIgnored ·) = true ∧ Url.isPoints (p.fill []) = false ∧
        ∀ special, Url.encodeSegment special (p.fill []) = p.fill [] := by decide
  obtain ⟨hplain, hstays, hencoded⟩ := table route hroute _ hs rfl
  exact ⟨Url.plain_of_all hplain, hstays, hencoded⟩

/-- A call with a name among its segments means the command about the name, if it becomes no command of another
kind and the kind of its route is no first piece. -/
theorem Call.means_of_route (a : Action) (kind : String) (tail : List String) {f : String → Command}
    (hcommands : call.Commands a.method) (hsegments : call.segments = "cluster" :: kind :: name :: tail)
    (hroute : ∀ route ∈ routes, ∀ y ∈ route.methods, y.2 = a →
      route.path = .fixed "cluster" :: .fixed kind :: .name :: tail.map .fixed)
    (hkind : kind.toList ≠ "cluster".toList) (hcommand : ∀ s r, commandOf a s r = (Http.nameOf s).map f)
    (hname : ∀ c ∈ name.toList, Url.isIgnored c = false) : call.Means (f name) := by
  intro client o ho mount secret path d headOnly hmount hhandle
  obtain ⟨route, hmem, ⟨y, hy, hya⟩, p, found, hpath, hpieces, hd⟩ :=
    split_of_handle hhandle (hcommands.becomes ho hmount hhandle)
  obtain rfl : path = '/' :: p := hpath
  have hroute := hroute route hmem y hy hya
  have hfixed : ∀ s ∈ "cluster" :: kind :: tail, Url.StandsAsIs s.toList := fun s hs =>
    standsAsIs_of_mem hmem (by rw [hroute]; simpa using hs)
  have hpieces : Text.split '/' p = "cluster".toList :: kind.toList :: found :: tail.map String.toList := by
    rw [hpieces, hroute]
    simp [Http.Piece.fill]
  obtain ⟨u, hu, rfl⟩ := Client.request_eq_ok ho
  obtain ⟨before, hasked⟩ := Call.split_asked hsegments hfixed hname hu
  rcases split_belowMount hmount with rfl | ⟨above, habove⟩
  · cases hpieces
  have hsame := hasked.symm.trans (habove.trans (congrArg (above ++ ·) hpieces))
  cases hpoints : Url.isPoints name.toList with
  | true =>
    -- Without the name the kind would have to stand where the first segment does.
    rw [hpoints, List.append_cons above] at hsame
    obtain ⟨-, hsame⟩ := List.append_inj' hsame (by simp)
    exact absurd (List.cons.inj hsame).1.symm hkind
  | false =>
    rw [hpoints] at hsame
    obtain ⟨-, hsame⟩ := List.append_inj' hsame (by simp)
    have hfound : Url.encodeSegment (Url.isSpecial client.base.scheme) name.toList = found :=
      (List.cons.inj (List.cons.inj (List.cons.inj hsame).2).2).1
    rw [hcommand, ← hfound, nameOf_encodeSegment _ hname] at hd
    exact (Except.ok.inj hd).symm

namespace WorkerCall

variable (hname : ∀ c ∈ name.toList, Url.isIgnored c = false)
include hname

theorem load_means : (load name).Means (.load name) :=
  Call.means_of_route .load "data-sources" ["load"] (load_commands name) rfl (by decide) (by decide) (fun _ _ => rfl)
    hname

theorem unload_means : (unload name).Means (.unload name) :=
  Call.means_of_route .unload "data-sources" ["unload"] (unload_commands name) rfl (by decide) (by decide)
    (fun _ _ => rfl) hname

theorem status_means : (status name).Means (.status name) :=
  Call.means_of_route .status "data-sources" ["status"] (status_commands name) rfl (by decide) (by decide)
    (fun _ _ => rfl) hname

theorem unregisterStorage_means : (unregisterStorage name).Means (.unregisterStorage name) :=
  Call.means_of_route .unregisterStorage "storages" [] (unregisterStorage_commands name) rfl (by decide) (by decide)
    (fun _ _ => rfl) hname

end WorkerCall

end Muster
