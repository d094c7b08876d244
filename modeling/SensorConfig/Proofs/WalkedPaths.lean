import Mathlib.Data.List.Basic
import SensorConfig.Proofs.ReplacedFiles

/-!
# Walked Paths

Where a path leads that goes through links.

A walk takes one name after another. A link that it meets is replaced by the names of
its target, and how many links may be met is a number that ends the recursion.
`FileTree.Leads` has a rule for each way in which a name is taken, and leaves out
everything that can stop a walk, so that what holds of all walks can be shown rule by
rule.

What holds is that a walk never comes to a link, nor to anything below one. It follows
the link instead, and to come there in another way it would have to pass the link. So
what a link leads to is another entry than the link, whatever the tree looks like.

The way to an entry can be cut. Behind the names that lead to a place, a walk goes on
from the place as any walk from there does, though with fewer links left to follow.

## Main definitions

* `FileTree.Leads`: Where names lead from a location.

## Theorems

* `FileTree.exists_walk_append`: A walk goes on from where its first names lead.
* `FileTree.leads_of_walk`: A walk takes names by the rules.
* `FileTree.Leads.not_below_link`: Names never lead to a link or below it.
* `FileTree.Names.ne_of_resolve`: A path to a link never leads to the link.
-/

namespace SensorConfig

namespace FileTree

/-- Where names lead from a location, one rule for each way in which a name is taken. A
    link is followed to its target and costs one of the links that may be followed. -/
inductive Leads (tree : FileTree) : Nat → Location → List String → Location → Prop where
  | done {links : Nat} {here : Location} : Leads tree links here [] here
  | dot {links : Nat} {here found : Location} {name : String} {names : List String}
      (hname : name = ".") (hrest : Leads tree links here names found) :
      Leads tree links here (name :: names) found
  | dots {links : Nat} {here found : Location} {name : String} {names : List String}
      (hname : name = "..") (hrest : Leads tree links here.dropLast names found) :
      Leads tree links here (name :: names) found
  | link {links : Nat} {here found : Location} {name target : String} {names : List String}
      (hdot : name ≠ ".") (hdots : name ≠ "..")
      (hlink : tree.find? (here ++ [name]) = some (.link target))
      (hrest : Leads tree links (origin here target) (steps target ++ names) found) :
      Leads tree (links + 1) here (name :: names) found
  | child {links : Nat} {here found : Location} {name : String} {names : List String}
      (hdot : name ≠ ".") (hdots : name ≠ "..")
      (hentry : ∀ target, tree.find? (here ++ [name]) ≠ some (.link target))
      (hrest : Leads tree links (here ++ [name]) names found) :
      Leads tree links here (name :: names) found

section

variable {tree : FileTree} {links : Nat} {here there found location : Location}
  {names : List String}

/-- A path that leads somewhere is walked to there. -/
theorem walk_of_resolve {path : String} (h : tree.resolve path = .ok found) :
    tree.walk maxLinks (origin tree.current path) (steps path) = .ok found := by
  unfold resolve at h
  split at h
  · cases h
  · split at h
    · cases h
    · exact h

/-- A walk goes on from where its first names lead, if it does so behind every link. -/
theorem exists_walkNames_append {follow : Location → List String → Except Cause Location}
    (hself : tree.walk links = walkNames follow tree)
    (hfollow : ∀ here names, follow here names = .ok there →
      ∃ left, ∀ more, follow here (names ++ more) = tree.walk left there more)
    (h : walkNames follow tree here names = .ok there) :
    ∃ left, ∀ more, walkNames follow tree here (names ++ more) = tree.walk left there more := by
  induction names generalizing here with
  | nil =>
      cases h
      refine ⟨links, fun more => ?_⟩
      rw [hself, List.nil_append]
  | cons name names ih =>
      simp only [List.cons_append, walkNames] at h ⊢
      split at h
      · cases h
      · next hdirectory =>
        simp only [if_neg hdirectory]
        split at h
        · next hdot =>
          simp only [if_pos hdot]
          exact ih h
        · next hdot =>
          simp only [if_neg hdot]
          split at h
          · next hdots =>
            simp only [if_pos hdots]
            exact ih h
          · next hdots =>
            simp only [if_neg hdots]
            split at h
            · cases h
            · next hlength =>
              simp only [if_neg hlength]
              split at h
              · cases h
              -- Behind a link the rest of the walk is that of the target.
              · next target hlink =>
                rcases hfollow _ _ h with ⟨left, hleft⟩
                refine ⟨left, fun more => ?_⟩
                rw [← hleft more, List.append_assoc]
              · exact ih h

/-- A walk goes on from where its first names lead, with the links that are left. -/
theorem exists_walk_append (h : tree.walk links here names = .ok there) :
    ∃ left, ∀ more, tree.walk links here (names ++ more) = tree.walk left there more := by
  induction links generalizing here names with
  | zero =>
      have hself : tree.walk 0 = walkNames (fun _ _ => .error .tooManyLinks) tree := rfl
      exact exists_walkNames_append hself (fun _ _ h => by cases h) h
  | succ links ih =>
      have hself : tree.walk (links + 1) = walkNames (tree.walk links) tree := rfl
      exact exists_walkNames_append hself (fun _ _ h => ih h) h

/-- A walk follows the rules, if what it leaves to others does. -/
theorem leads_of_walkNames {follow : Location → List String → Except Cause Location}
    (hfollow : ∀ here name names target, name ≠ "." → name ≠ ".." →
      tree.find? (here ++ [name]) = some (.link target) →
      follow (origin here target) (steps target ++ names) = .ok found →
      Leads tree links here (name :: names) found)
    (h : walkNames follow tree here names = .ok found) : Leads tree links here names found := by
  induction names generalizing here with
  | nil =>
      cases h
      exact .done
  | cons name names ih =>
      rw [walkNames] at h
      split at h
      · cases h
      · split at h
        · next hdot =>
          exact .dot hdot (ih h)
        · next hdot =>
          split at h
          · next hdots =>
            exact .dots hdots (ih h)
          · next hdots =>
            split at h
            · cases h
            · split at h
              · cases h
              · next target hlink => exact hfollow here name names target hdot hdots hlink h
              · next entry hlink hentry =>
                refine .child hdot hdots (fun target htarget => ?_) (ih h)
                exact hlink target (Option.some.inj (hentry.symm.trans htarget))

/-- Every walk does. -/
theorem leads_of_walk (h : tree.walk links here names = .ok found) :
    Leads tree links here names found := by
  induction links generalizing here names with
  | zero => exact leads_of_walkNames (fun _ _ _ _ _ _ _ h => by cases h) h
  | succ links ih =>
      exact leads_of_walkNames (fun _ _ _ _ hdot hdots hlink h => .link hdot hdots hlink (ih h)) h

-- The root is no link, so it is below none.
theorem not_below_origin {target : String} (hlink : tree.find? location = some (.link target))
    (hhere : ¬ location <+: here) (path : String) : ¬ location <+: origin here path := by
  rw [origin]
  split
  · rw [List.prefix_nil]
    rintro rfl
    cases hlink
  · exact hhere

/-- Names never lead to a link or below it, except from there. -/
theorem Leads.not_below_link {target : String} (hlink : tree.find? location = some (.link target))
    (h : Leads tree links here names found) (hhere : ¬ location <+: here) :
    ¬ location <+: found := by
  -- By the rules of the walk: no name leads from outside to the link or below it.
  induction h with
  | done => exact hhere
  | dot _ _ ih => exact ih hhere
  | dots _ _ ih => exact ih fun hbelow => hhere (hbelow.trans (List.dropLast_prefix _))
  | link _ _ _ _ ih => exact ih (not_below_origin hlink hhere _)
  | child _ _ hentry _ ih =>
      refine ih fun hbelow => ?_
      rcases List.prefix_concat_iff.1 hbelow with rfl | hbelow
      · exact hentry target hlink
      · exact hhere hbelow

/-- A path to a link never leads to the link. -/
theorem Names.ne_of_resolve {path target : String} (hpath : Path.IsFileName path)
    (hnames : tree.Names path location) (hlink : tree.find? location = some (.link target))
    (h : tree.resolve path = .ok found) : found ≠ location := by
  rcases hnames with ⟨directory, last, rfl, hlast, hwalk, _⟩
  have hpathWalk := walk_of_resolve h
  have hsteps : steps path = (Path.names path).dropLast ++ [last] := by
    rw [steps, hpath.endsInSlash, List.dropLast_append_getLast? last hlast]
    simp
  rw [hsteps] at hpathWalk
  -- What is left to walk is the last name, from the directory.
  rcases exists_walk_append hwalk with ⟨left, hleft⟩
  have hleads := leads_of_walk ((hleft [last]).symm.trans hpathWalk)
  have hname := hpath.last last hlast
  cases hleads with
  | dot hdot => exact absurd hdot hname.1
  | dots hdots => exact absurd hdots hname.2.1
  | child _ _ hentry => exact absurd hlink (hentry _)
  | link _ _ hlink' hrest =>
      -- The target is walked from the directory of the link, which is not below the link.
      have hself : ¬ directory ++ [last] <+: directory := by
        intro hbelow
        have hlength := hbelow.length_le
        rw [List.length_append, List.length_singleton] at hlength
        omega
      rintro rfl
      exact hrest.not_below_link hlink (not_below_origin hlink hself _) (List.prefix_refl _)

end

end FileTree

end SensorConfig
