import Muster.Proofs.Cluster.Broadcast
import Muster.Proofs.Node.Taken

/-! # What operations name

An operation on a data source or a storage names it to the members. Whatever becomes of the operation, engines are
called with that very name only, and what they have under other names stays as it was. This holds of all names in which
nothing is ignored in a path; a tab or the end of a line is lost on the way. -/

namespace Muster

open Worker

/-- The command that an operation on a name gives to each worker. -/
def Operation.command? : Operation → Option Command
  | .mutation (.load name) => some (.load name)
  | .mutation (.unload name) => some (.unload name)
  | .mutation (.unregisterStorage name) => some (.unregisterStorage name)
  | .status name => some (.status name)
  | .mutation (.registerStorage _) | .storages => none

namespace Cluster

/-- An operation on a name, carried out by any members in any network, with any outcome: the engines take no command but
the one about the name. Their records grow by it alone, and nothing changes that they have under other names. -/
theorem operate_names (r : Roster) (net : Network) (limit : Nat) (o : Operation) (c : Command)
    (hcommand : o.command? = some c) (hname : ∀ x ∈ c.subject.toList, Url.isIgnored x = false) :
    let after := (r.operate net limit o).1
    after.engines.length = net.engines.length ∧
    ∀ (i : Nat) (e : Engine), net.engines[i]? = some e → ∃ e', after.engines[i]? = some e' ∧ e.TookOnly c e' ∧
      (∃ k, e'.calls = e.calls ++ List.replicate k c.record) ∧ e.SameBut c.subject e' := by
  intro after
  have heard : net.Heard c after := by
    cases o with
    | storages => cases hcommand
    | status name =>
      obtain rfl := Option.some.inj hcommand
      exact heard_callEach (WorkerCall.status_means hname) limit net r.memberNodes
    | mutation m =>
      cases m with
      | registerStorage credential => cases hcommand
      | load name =>
        obtain rfl := Option.some.inj hcommand
        exact heard_callEach (WorkerCall.load_means hname) limit net r.memberNodes
      | unload name =>
        obtain rfl := Option.some.inj hcommand
        exact heard_callEach (WorkerCall.unload_means hname) limit net r.memberNodes
      | unregisterStorage name =>
        obtain rfl := Option.some.inj hcommand
        exact heard_callEach (WorkerCall.unregisterStorage_means hname) limit net r.memberNodes
  refine ⟨heard.length, fun i e he => ?_⟩
  obtain ⟨e', he', htook⟩ := heard.each he
  exact ⟨e', he', htook, htook.calls, htook.sameBut⟩

/-- A name full of signs of paths reaches the engine as it is. -/
theorem operate_names_signs :
    (∀ x ∈ "a/b %2F?#é".toList, Url.isIgnored x = false) ∧
    ∃ e', (threeMembers.operate threeHosts 2000 (.mutation (.load "a/b %2F?#é"))).1.engines[0]? = some e' ∧
      (freshEngine []).TookOnly (.load "a/b %2F?#é") e' ∧ e'.calls = ["load a/b %2F?#é"] := by
  have hname : ∀ x ∈ "a/b %2F?#é".toList, Url.isIgnored x = false := Url.plain_of_all (by decide)
  have h := operate_names threeMembers threeHosts 2000 (.mutation (.load "a/b %2F?#é")) _ rfl hname
  obtain ⟨e', he', htook, -, -⟩ := h.2 0 (freshEngine []) rfl
  have hcalls : ((threeMembers.operate threeHosts 2000 (.mutation (.load "a/b %2F?#é"))).1.engines[0]?.map
      (·.calls)) = some ["load a/b %2F?#é"] := by decide +kernel
  rw [he'] at hcalls
  exact ⟨hname, e', he', htook, Option.some.inj hcalls⟩

/-- A tab is lost: the members that are told to load `a\tb` load `ab`, and are not reported. -/
theorem operate_names_tab :
    (threeMembers.operate threeHosts 2000 (.mutation (.load "a\tb"))).1.engines.map (·.calls) =
      [["load ab"], ["load ab"], []] ∧
    ∀ e', (threeMembers.operate threeHosts 2000 (.mutation (.load "a\tb"))).1.engines[0]? = some e' →
      ¬ (freshEngine []).TookOnly (.load "a\tb") e' := by
  have hcalls : (threeMembers.operate threeHosts 2000 (.mutation (.load "a\tb"))).1.engines.map (·.calls) =
      [["load ab"], ["load ab"], []] := by decide +kernel
  refine ⟨hcalls, fun e' he' htook => ?_⟩
  obtain ⟨k, hk⟩ := htook.calls
  have hfirst := congrArg (·[0]?) hcalls
  rw [List.getElem?_map, he'] at hfirst
  have hrecord : e'.calls = ["load ab"] := Option.some.inj hfirst
  have hsame : ["load ab"] = List.replicate k (Command.load "a\tb").record := hrecord.symm.trans hk
  exact absurd (List.eq_of_mem_replicate (hsame ▸ List.mem_singleton_self "load ab")) (by decide)

end Cluster

end Muster
