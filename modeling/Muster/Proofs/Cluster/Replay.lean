import Mathlib.Data.List.Induction
import Muster.Proofs.Cluster.Run

/-! # Members as the replay of a history

Who belongs to a cluster is told by the history of the changes alone: the enrollments that were carried out, less
those that a later change ended. The replay of a longer history is had from the replay of the shorter one, in the way
in which a change acts on the members. -/

namespace Muster

/-- Whoever belongs to the cluster under a name with an address belongs to it no longer after this call, which was
carried out or not: one that enrolls somebody else has to be. -/
def Change.ends (x : Change) (done : Bool) (name url : String) : Bool :=
  match x with
  | .enroll name' url' _ => done && (name = (if name' = "" then url' else name') || url = url')
  | .remove name' => name = name'
  | .dissolve => true

/-- A call ends an enrollment. -/
def ends (e : Enrollment) (x : Change × Bool) : Bool := x.1.ends x.2 e.name e.url

/-- The enrollments of a history that nothing later in it ended, in order. -/
def standing : List (Change × Bool) → List Enrollment
  | [] => []
  | x :: h => (enrolled [x]).filter (fun e => h.all (!ends e ·)) ++ standing h

theorem standing_snoc (h : List (Change × Bool)) (x : Change × Bool) :
    standing (h ++ [x]) = (standing h).filter (!ends · x) ++ enrolled [x] := by
  induction h with
  | nil => simp [standing]
  | cons y h ih =>
    simp only [List.cons_append, standing, ih, List.filter_append, List.filter_filter, List.append_assoc,
      List.all_append, List.all_cons, List.all_nil, Bool.true_and, Bool.and_comm]

/-- An enrollment stands that was carried out and that nothing behind it in the history ends. -/
theorem mem_standing {h : List (Change × Bool)} {e : Enrollment} :
    e ∈ standing h ↔ ∃ h₁ x h₂, h = h₁ ++ x :: h₂ ∧ e ∈ enrolled [x] ∧ ∀ y ∈ h₂, ends e y = false := by
  induction h with
  | nil => simp [standing]
  | cons y h ih =>
    rw [standing, List.mem_append, List.mem_filter, ih]
    constructor
    · rintro (⟨he, hall⟩ | ⟨h₁, x, h₂, rfl, he, hall⟩)
      · exact ⟨[], y, h, rfl, he, by simpa using hall⟩
      · exact ⟨y :: h₁, x, h₂, rfl, he, hall⟩
    · rintro ⟨h₁, x, h₂, heq, he, hall⟩
      cases h₁ with
      | nil =>
        obtain ⟨rfl, rfl⟩ := List.cons_eq_cons.mp heq
        exact Or.inl ⟨he, by simpa using hall⟩
      | cons z h₁ =>
        obtain ⟨rfl, rfl⟩ := List.cons_eq_cons.mp heq
        exact Or.inr ⟨h₁, x, h₂, rfl, he, hall⟩

/-- What a node was enrolled with, as far as its checks have left it. -/
def Node.enrollment (n : Node) : Enrollment := ⟨n.name, n.url, n.health.version⟩

/-- If nodes show the enrollments that stand after a history, then after one more call they do, less those of an
enrollment that it ends, and with those that it makes. -/
theorem map_standing_snoc {β : Type} {f : Node → β} {g : Enrollment → β} {nodes new : List Node}
    {h : List (Change × Bool)} {x : Change × Bool} (p : β → Bool) (hf : ∀ n, p (f n) = !ends n.enrollment x)
    (hg : ∀ e, p (g e) = !ends e x) (hold : nodes.map f = (standing h).map g)
    (hnew : new.map f = (enrolled [x]).map g) :
    (nodes.filter (fun n => !ends n.enrollment x) ++ new).map f = (standing (h ++ [x])).map g := by
  rw [standing_snoc, List.map_append, List.map_append, hnew]
  refine congrArg (· ++ _) ?_
  calc (nodes.filter fun n => !ends n.enrollment x).map f
      = (nodes.filter (p ∘ f)).map f := by rw [show p ∘ f = fun n => !ends n.enrollment x from funext hf]
    _ = (nodes.map f).filter p := List.filter_map.symm
    _ = ((standing h).map g).filter p := by rw [hold]
    _ = ((standing h).filter (p ∘ g)).map g := List.filter_map
    _ = ((standing h).filter (!ends · x)).map g := by rw [show p ∘ g = (!ends · x) from funext hg]

namespace Cluster

variable {c : Cluster}

/-- A change takes away the members whose enrollment it ends, and adds what it enrolls. -/
theorem memberNodes_change (h : c.roster.Sound) (x : Change) : ∃ new : List Node,
    (c.change x).1.roster.memberNodes =
      c.roster.memberNodes.filter (fun n => !ends n.enrollment (x, (c.change x).2.isOk)) ++ new ∧
    new.map Node.enrollment = enrolled (c.entry (.changed x)) ∧ ∀ n ∈ new, n.health.error = none := by
  cases x with
  | enroll name url version =>
    show ∃ new : List Node, (c.enroll name url version).1.roster.memberNodes =
      c.roster.memberNodes.filter (fun n => !ends n.enrollment
        (.enroll name url version, ((c.enroll name url version).2.map fun _ => ()).isOk)) ++ new ∧
      new.map Node.enrollment =
        enrolled [(.enroll name url version, ((c.enroll name url version).2.map fun _ => ()).isOk)] ∧ _
    rcases c.enroll_cases name url version with ⟨-, e, he⟩ | ⟨-, n, hn, he⟩
    · rw [he]
      refine ⟨[], ?_, rfl, fun _ hk => by cases hk⟩
      rw [List.append_nil]
      exact (List.filter_eq_self.mpr fun n _ => rfl).symm
    · rw [he]
      obtain ⟨client, -, rfl⟩ := make_node hn
      refine ⟨_, h.memberNodes_seat c.clock.now _, rfl, fun k hk => ?_⟩
      obtain rfl := List.mem_singleton.mp hk
      rfl
  | remove name =>
    show ∃ new : List Node, (c.remove name).1.roster.memberNodes =
      c.roster.memberNodes.filter (fun n => !ends n.enrollment (.remove name, (c.remove name).2.isOk)) ++ new ∧
      new.map Node.enrollment = enrolled [(.remove name, (c.remove name).2.isOk)] ∧ _
    have hnone : enrolled [(.remove name, (c.remove name).2.isOk)] = [] := by cases (c.remove name).2.isOk <;> rfl
    refine ⟨[], ?_, hnone.symm, fun _ hk => by cases hk⟩
    rw [List.append_nil]
    rcases c.remove_cases name with ⟨hnot, he⟩ | ⟨-, t, ht, he⟩
    · -- Nobody has the name of a removal that is refused.
      rw [he]
      refine (List.filter_eq_self.mpr fun n hn => ?_).symm
      have hne : n.name ≠ name := fun hname => hnot (h.map_name ▸ List.mem_map.mpr ⟨n, hn, hname⟩)
      simp [ends, Change.ends, Node.enrollment, hne]
    · rw [he]
      refine (h.memberNodes_remove ht).trans (List.filter_congr fun n _ => ?_)
      exact decide_not
  | dissolve =>
    refine ⟨[], ?_, rfl, fun _ hk => by cases hk⟩
    rw [List.append_nil]
    exact (List.filter_eq_nil_iff.mpr fun n _ => by simp [ends, Change.ends]).symm

/-! ### Replay -/

variable (policy : Policy) (common : CommonSettings) (net : Network)

/-- The members of a cluster, by name and address, are the replay of its history, whatever else happens to it. -/
theorem places_run (es : List Event) :
    ((start policy common net).run es).roster.memberNodes.map (fun n => (n.name, n.url)) =
      (standing ((start policy common net).history es)).map fun e => (e.name, e.url) := by
  induction es using List.reverseRecOn with
  | nil => rfl
  | append_singleton es e ih =>
    rw [run_snoc, history_snoc]
    have sound := sound_run policy common net es
    generalize (start policy common net).run es = c at ih sound ⊢
    generalize (start policy common net).history es = h at ih ⊢
    have quiet (he : ∀ x, e ≠ .changed x) : (c.react e).roster.memberNodes.map (fun n => (n.name, n.url)) =
        (standing (h ++ [])).map fun e => (e.name, e.url) := by
      rw [List.append_nil, ← ih]
      exact Roster.map_of_map (c.react_quiet he).memberNodes fun k => (k.1.1, k.1.2.1)
    cases e with
    | changed x =>
      show (c.change x).1.roster.memberNodes.map _ = (standing (h ++ [(x, (c.change x).2.isOk)])).map _
      obtain ⟨new, hnew, hmade, -⟩ := memberNodes_change sound x
      have hadded : new.map (fun n => (n.name, n.url)) =
          (enrolled [(x, (c.change x).2.isOk)]).map fun e => (e.name, e.url) := by
        rw [show enrolled [(x, (c.change x).2.isOk)] = new.map Node.enrollment from hmade.symm, List.map_map]
        rfl
      rw [hnew]
      -- What a change ends is decided by name and address alone.
      exact map_standing_snoc (fun k => !x.ends (c.change x).2.isOk k.1 k.2) (fun _ => rfl) (fun _ => rfl) ih hadded
    | operated o limit => exact quiet fun _ => by simp
    | checked place moment x => exact quiet fun _ => by simp
    | passed span => exact quiet fun _ => by simp
    | rewired net => exact quiet fun _ => by simp

/-- As long as nobody is checked, members have the versions with which they were enrolled, and no errors. -/
theorem enrollments_run (xs : List Change) :
    ((start policy common net).run (xs.map .changed)).roster.memberNodes.map
        (fun n => (n.enrollment, n.health.error)) =
      (standing ((start policy common net).history (xs.map .changed))).map fun e => (e, none) := by
  induction xs using List.reverseRecOn with
  | nil => rfl
  | append_singleton xs x ih =>
    rw [List.map_append, List.map_singleton, run_snoc, history_snoc]
    have sound := sound_run policy common net (xs.map .changed)
    generalize (start policy common net).run (xs.map .changed) = c at ih sound ⊢
    generalize (start policy common net).history (xs.map .changed) = h at ih ⊢
    show (c.change x).1.roster.memberNodes.map _ = (standing (h ++ [(x, (c.change x).2.isOk)])).map _
    obtain ⟨new, hnew, hmade, hclear⟩ := memberNodes_change sound x
    have hadded : new.map (fun n => (n.enrollment, n.health.error)) =
        (enrolled [(x, (c.change x).2.isOk)]).map fun e => (e, none) := by
      rw [show enrolled [(x, (c.change x).2.isOk)] = new.map Node.enrollment from hmade.symm, List.map_map]
      exact List.map_congr_left fun n hn => by rw [hclear n hn]; rfl
    rw [hnew]
    exact map_standing_snoc (fun k => !ends k.1 (x, (c.change x).2.isOk)) (fun _ => rfl) (fun _ => rfl) ih hadded

/-- The member list tells, in the order in which they came, the workers whose enrollment was carried out and that no
later change ended, whatever else happened; the names in it are those that can be removed. If nothing but changes
happened, it tells the versions with which they were enrolled. -/
theorem rows_replay (policy : Policy) (common : CommonSettings) (net : Network) (es : List Event) :
    let c := (start policy common net).run es
    let h := (start policy common net).history es
    c.roster.rows.map (fun row => (row.name, row.url)) = (standing h).map (fun e => (e.name, e.url)) ∧
    (∀ name, (c.remove name).2 =
      if name ∈ (standing h).map (·.name) then .ok () else .error (.nodeNotFound name)) ∧
    ∀ xs : List Change, es = xs.map .changed →
      c.roster.rows.map (fun row => (row.name, row.url, row.version, row.error)) =
        (standing h).map fun e => (e.name, e.url, e.version, "") := by
  intro c h
  have hplaces : c.roster.memberNodes.map (fun n => (n.name, n.url)) = (standing h).map fun e => (e.name, e.url) :=
    places_run policy common net es
  refine ⟨?_, fun name => ?_, fun xs hes => ?_⟩
  · rw [← hplaces, Roster.rows, List.map_map]
    rfl
  · have hnames : c.roster.members.map (·.1) = (standing h).map (·.name) := by
      rw [← (sound_run policy common net es).map_name]
      exact Roster.map_of_map hplaces Prod.fst
    rcases c.remove_cases name with ⟨hnot, he⟩ | ⟨hmem, t, -, he⟩
    · rw [he, if_neg (hnames ▸ hnot)]
    · rw [he, if_pos (hnames ▸ hmem)]
  · subst hes
    rw [Roster.rows, List.map_map]
    exact Roster.map_of_map (enrollments_run policy common net xs) fun k =>
      (k.1.name, k.1.url, k.1.version, k.2.getD "")

end Cluster

end Muster
