import RouteTemplate.Command
import RouteTemplate.Command.Assignments
import RouteTemplate.CommandLine
import RouteTemplate.Dict
import RouteTemplate.Endpoint
import RouteTemplate.Endpoint.Display
import RouteTemplate.Endpoint.Fill
import RouteTemplate.Endpoint.Substitute
import RouteTemplate.Error
import RouteTemplate.Event
import RouteTemplate.Main
import RouteTemplate.Program
import RouteTemplate.Proofs.Binding
import RouteTemplate.Proofs.Cutting
import RouteTemplate.Proofs.Dict
import RouteTemplate.Proofs.Rendering
import RouteTemplate.Proofs.ResolveTree.Branches
import RouteTemplate.Proofs.ResolveTree.FirstMatch
import RouteTemplate.Proofs.ResolveTree.Growth
import RouteTemplate.Proofs.ResolveTree.Presence
import RouteTemplate.Proofs.RoundTrip
import RouteTemplate.Proofs.Template.Grammar
import RouteTemplate.Proofs.Template.Reading
import RouteTemplate.Registry
import RouteTemplate.Request
import RouteTemplate.ResolveTree
import RouteTemplate.ResolveTree.Build
import RouteTemplate.Session
import RouteTemplate.Session.Load
import RouteTemplate.Settings
import RouteTemplate.Settings.Value
import RouteTemplate.Settings.Yaml
import RouteTemplate.Shape
import RouteTemplate.SortedSet
import RouteTemplate.Target
import RouteTemplate.Target.DomainName
import RouteTemplate.Target.DomainName.Direction
import RouteTemplate.Target.DomainName.Folding
import RouteTemplate.Target.DomainName.Joining
import RouteTemplate.Target.DomainName.Mark
import RouteTemplate.Target.DomainName.Punycode
import RouteTemplate.Target.Ipv4
import RouteTemplate.Target.Ipv6
import RouteTemplate.Template
import RouteTemplate.Template.Region
import RouteTemplate.Template.Shorthand
import RouteTemplate.Text
import RouteTemplate.Text.CombiningClass
import RouteTemplate.Text.Composition
import RouteTemplate.Text.Decomposition
import RouteTemplate.Text.Literal
import RouteTemplate.Text.Percent
import RouteTemplate.Text.Table
import RouteTemplate.Text.Word
import RouteTemplate.Yaml.Node
import RouteTemplate.Yaml.Token
import RouteTemplate.Proofs.Parsing
import RouteTemplate.Proofs.ResolveTree.QueryTable
import RouteTemplate.Proofs.Refilling
import RouteTemplate.Proofs.Template.Depth
import RouteTemplate.Proofs.Template.Expansion
import RouteTemplate.Proofs.Template.Display
import RouteTemplate.Proofs.Template.Derived
import RouteTemplate.Proofs.Template.Reparse
import RouteTemplate.Proofs.Registry.Coherence
import RouteTemplate.Proofs.Session.Runs
import RouteTemplate.Proofs.Session.Routing
import RouteTemplate.Proofs.Registry.Rooted
import RouteTemplate.Proofs.Percent
import RouteTemplate.Proofs.Registry.Legible
import RouteTemplate.Proofs.Session.Calls
import RouteTemplate.Proofs.Asking
import RouteTemplate.Proofs.Session.Stored
import RouteTemplate.Proofs.Alike
import RouteTemplate.Proofs.Session.Log
import RouteTemplate.Proofs.ResolveTree.Decided
import RouteTemplate.Proofs.Session.Relevance
import RouteTemplate.Proofs.ReadBack
import RouteTemplate.Proofs.FirstAppearance
import RouteTemplate.Proofs.Questions
import RouteTemplate.Proofs.ResolveTree.NormalForm
import RouteTemplate.Proofs.Placing
import RouteTemplate.Proofs.ResolveTree.Counting
import RouteTemplate.Proofs.Absolute
import RouteTemplate.Proofs.Separators
import RouteTemplate.Proofs.Trimming
import RouteTemplate.Proofs.Template.Locality
import RouteTemplate.Proofs.Template.WrittenOut
import RouteTemplate.Proofs.Keeping
import RouteTemplate.Proofs.FirstFault
import RouteTemplate.Proofs.Session.Loading
import RouteTemplate.Proofs.Settings
import RouteTemplate.Proofs.Assignments
import RouteTemplate.Proofs.Order
import RouteTemplate.Proofs.Session.Listing
import RouteTemplate.Proofs.ResolveTree.Turns
