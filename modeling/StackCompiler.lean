import StackCompiler.Environment.File
import StackCompiler.Main
import StackCompiler.Portal.Site
import StackCompiler.Proofs.Artifacts.Acceptance
import StackCompiler.Proofs.Artifacts.AcceptedNames
import StackCompiler.Proofs.Artifacts.Confinement
import StackCompiler.Proofs.Artifacts.Reordering
import StackCompiler.Proofs.Artifacts.Secrecy
import StackCompiler.Proofs.Artifacts.SidecarTexts
import StackCompiler.Proofs.Cascade.Agreement
import StackCompiler.Proofs.Cascade.Ending
import StackCompiler.Proofs.Cascade.Exchange
import StackCompiler.Proofs.Cascade.Hop
import StackCompiler.Proofs.Cascade.Malformed
import StackCompiler.Proofs.Cascade.Redirects
import StackCompiler.Proofs.Cascade.Requests
import StackCompiler.Proofs.CommandLine.Atomicity
import StackCompiler.Proofs.CommandLine.Planning
import StackCompiler.Proofs.CommandLine.Recompiling
import StackCompiler.Proofs.Deployment.Hosts
import StackCompiler.Proofs.Deployment.Resolution
import StackCompiler.Proofs.Deployment.RoleOrder
import StackCompiler.Proofs.Descriptor.Delivery
import StackCompiler.Proofs.Descriptor.EnvironmentFile
import StackCompiler.Proofs.Descriptor.Shape
import StackCompiler.Proofs.Files.Masking
import StackCompiler.Proofs.Json.RoundTrip
import StackCompiler.Proofs.Portal.Token
import StackCompiler.Proofs.Realm.Emails
import StackCompiler.Proofs.Routing.Integrity
import StackCompiler.Proofs.Routing.Reordering
import StackCompiler.Proofs.Secrets.Calls
import StackCompiler.Proofs.Secrets.Rotating
import StackCompiler.Proofs.Secrets.Verifying
import StackCompiler.Proofs.Stack.RoleLists
import StackCompiler.Proofs.Stack.Scaffolding
