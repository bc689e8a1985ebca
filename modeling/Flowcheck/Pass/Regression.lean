import Flowcheck.Pass.Check

/-!
# The check for lowered phi nodes

A regression check of the graph that lowering of phi nodes produces for a program with three nested
`for` loops. Each phi becomes a block on the incoming edge and each conditional branch a block for
either side, which gives 33 blocks.
-/

namespace Flowcheck.Regression

/-- The edges that the graph must have. -/
def nestedLoopEdges : String :=
  "(trans\n" ++
  "  (edge (*in_entry_to_for.cond_phi) (for.cond))\n" ++
  "  (edge (*in_for.body.3_to_for.cond.4_phi) (for.cond.4))\n" ++
  "  (edge (*in_for.body_to_for.cond.1_phi) (for.cond.1))\n" ++
  "  (edge (*in_for.end.24_to_for.cond.25_phi) (for.cond.25))\n" ++
  "  (edge (*in_for.inc.19_to_for.cond.1_phi) (for.cond.1))\n" ++
  "  (edge (*in_for.inc.22_to_for.cond_phi) (for.cond))\n" ++
  "  (edge (*in_for.inc.35_to_for.cond.25_phi) (for.cond.25))\n" ++
  "  (edge (*in_for.inc_to_for.cond.4_phi) (for.cond.4))\n" ++
  "  (edge (*out_for.cond.1_to_for.body.3_icmp_true) (for.body.3))\n" ++
  "  (edge (*out_for.cond.1_to_for.end.21_icmp_false) (for.end.21))\n" ++
  "  (edge (*out_for.cond.25_to_for.body.27_icmp_true) (for.body.27))\n" ++
  "  (edge (*out_for.cond.25_to_for.end.37_icmp_false) (for.end.37))\n" ++
  "  (edge (*out_for.cond.4_to_for.body.6_icmp_true) (for.body.6))\n" ++
  "  (edge (*out_for.cond.4_to_for.end_icmp_false) (for.end))\n" ++
  "  (edge (*out_for.cond_to_for.body_icmp_true) (for.body))\n" ++
  "  (edge (*out_for.cond_to_for.end.24_icmp_false) (for.end.24))\n" ++
  "  (edge (entry) (*in_entry_to_for.cond_phi))\n" ++
  "  (edge (for.body) (*in_for.body_to_for.cond.1_phi))\n" ++
  "  (edge (for.body.27) (for.inc.35))\n" ++
  "  (edge (for.body.3) (*in_for.body.3_to_for.cond.4_phi))\n" ++
  "  (edge (for.body.6) (for.inc))\n" ++
  "  (edge (for.cond) (*out_for.cond_to_for.body_icmp_true))\n" ++
  "  (edge (for.cond) (*out_for.cond_to_for.end.24_icmp_false))\n" ++
  "  (edge (for.cond.1) (*out_for.cond.1_to_for.body.3_icmp_true))\n" ++
  "  (edge (for.cond.1) (*out_for.cond.1_to_for.end.21_icmp_false))\n" ++
  "  (edge (for.cond.25) (*out_for.cond.25_to_for.body.27_icmp_true))\n" ++
  "  (edge (for.cond.25) (*out_for.cond.25_to_for.end.37_icmp_false))\n" ++
  "  (edge (for.cond.4) (*out_for.cond.4_to_for.body.6_icmp_true))\n" ++
  "  (edge (for.cond.4) (*out_for.cond.4_to_for.end_icmp_false))\n" ++
  "  (edge (for.end) (for.inc.19))\n" ++
  "  (edge (for.end.21) (for.inc.22))\n" ++
  "  (edge (for.end.24) (*in_for.end.24_to_for.cond.25_phi))\n" ++
  "  (edge (for.inc) (*in_for.inc_to_for.cond.4_phi))\n" ++
  "  (edge (for.inc.19) (*in_for.inc.19_to_for.cond.1_phi))\n" ++
  "  (edge (for.inc.22) (*in_for.inc.22_to_for.cond_phi))\n" ++
  "  (edge (for.inc.35) (*in_for.inc.35_to_for.cond.25_phi)))\n"

/-- The check with these edges and the exact number of blocks. -/
def nestedLoopCheck : Check where
  label := "CfgTransLlvmPhi2"
  name := "unittest-cfg-trans-llvm-phi-2"
  description := "Verifier pass for unittest-cfg-trans-llvm-phi-2"
  expected := .text nestedLoopEdges
  blockCount? := some 33

end Flowcheck.Regression
