import TypeAudit.ClassGraph
import TypeAudit.Report.Json
import TypeAudit.Setup
import TypeAudit.Proofs.ClassGraph.Reachability
import TypeAudit.Proofs.Denylist.Matching
import TypeAudit.Proofs.Denylist.Table
import TypeAudit.Proofs.DocComment.TagLine
import TypeAudit.Proofs.Setup
import TypeAudit.Proofs.UsageRule.Sites
import TypeAudit.Proofs.Analyzer.Runs
import TypeAudit.Proofs.Denylist.Representation
import TypeAudit.Proofs.Denylist.Queries
import TypeAudit.Proofs.UsageRule.NativeAndDoc
import TypeAudit.Proofs.ClassGraph.Preorder
import TypeAudit.Proofs.Json.Literals
import TypeAudit.Proofs.Json.RoundTrip
import TypeAudit.Proofs.Report.SaveLoad
import TypeAudit.Proofs.UsageRule.Builtins
import TypeAudit.Proofs.UsageRule.Enclosing
import TypeAudit.Proofs.Denylist.Precedence
import TypeAudit.Proofs.Denylist.Edits
import TypeAudit.Proofs.UsageRule.Edits
import TypeAudit.Proofs.ClassGraph.Declarations
import TypeAudit.Proofs.Denylist.Growth
import TypeAudit.Proofs.Denylist.Spelling
import TypeAudit.Proofs.UsageRule.Requests
import TypeAudit.Proofs.UsageRule.Rewriting
import TypeAudit.Proofs.DocComment.LineEnds
import TypeAudit.Proofs.UsageRule.Sentences
import TypeAudit.Proofs.ClassGraph.Distance
import TypeAudit.Proofs.ClassGraph.Worklist
import TypeAudit.Proofs.Analyzer.Log
