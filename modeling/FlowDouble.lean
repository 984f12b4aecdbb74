import FlowDouble.Contract
import FlowDouble.Proofs.Effects
import FlowDouble.Proofs.Entries
import FlowDouble.Proofs.Parameters.Filling
import FlowDouble.Script.Run
import FlowDouble.Script.Tuning
import FlowDouble.Proofs.Context.Guard
import FlowDouble.Proofs.Context.Fresh
import FlowDouble.Proofs.Context.Reachable
import FlowDouble.Proofs.Context.History
import FlowDouble.Proofs.Context.Redirects
import FlowDouble.Proofs.Parameters.Changes
import FlowDouble.Proofs.Parameters.Writing
import FlowDouble.Proofs.Parameters.Following
import FlowDouble.Proofs.Parameters.History
import FlowDouble.Proofs.Attributes.Table
import FlowDouble.Proofs.Attributes.Layers
import FlowDouble.Proofs.Attributes.Offers
import FlowDouble.Proofs.Attributes.Requests
import FlowDouble.Proofs.Attributes.Refinement
import FlowDouble.Proofs.Attributes.History
import FlowDouble.Proofs.Context.Refusals
import FlowDouble.Proofs.Seeding.Fold
import FlowDouble.Proofs.Seeding.Puts
import FlowDouble.Proofs.Content
import FlowDouble.Proofs.Seeding.Fields
import FlowDouble.Proofs.Seeding.Last
import FlowDouble.Proofs.Seeding.Invariant
import FlowDouble.Proofs.Seeding.Order
import FlowDouble.Proofs.Handlers.Layers
import FlowDouble.Proofs.Parameters.Routes
import FlowDouble.Proofs.Renaming.Support
import FlowDouble.Proofs.Renaming.Values
import FlowDouble.Proofs.Renaming.Entries
import FlowDouble.Proofs.Renaming.Worlds
import FlowDouble.Proofs.Renaming.Steps
import FlowDouble.Proofs.Renaming.Content
import FlowDouble.Proofs.Renaming.Snapshots
import FlowDouble.Proofs.Renaming.Copying
import FlowDouble.Proofs.Renaming.Showing
import FlowDouble.Proofs.Renaming.Reports
import FlowDouble.Proofs.Renaming.Items
import FlowDouble.Proofs.Renaming.Parameters
import FlowDouble.Proofs.Renaming.Attributes
import FlowDouble.Proofs.Renaming.Binding
import FlowDouble.Proofs.Renaming.Contexts
import FlowDouble.Proofs.Renaming.Methods
import FlowDouble.Proofs.Renaming.Members
import FlowDouble.Proofs.Renaming.Casting
import FlowDouble.Proofs.Renaming.Making
import FlowDouble.Proofs.Renaming.Calls
import FlowDouble.Proofs.Renaming.Literals
import FlowDouble.Proofs.Isolation.Deeds
import FlowDouble.Proofs.Isolation.Onward
import FlowDouble.Proofs.Isolation.Sources
import FlowDouble.Proofs.Isolation.Contexts
import FlowDouble.Proofs.Isolation.Invocations
import FlowDouble.Proofs.Uses.Through
import FlowDouble.Proofs.Uses.Maps
import FlowDouble.Proofs.Context.Conduct
import FlowDouble.Proofs.Context.Trail
import FlowDouble.Proofs.Context.Writing
import FlowDouble.Proofs.Context.Settings
import FlowDouble.Proofs.Context.Emissions
import FlowDouble.Proofs.Context.Input
import FlowDouble.Proofs.Context.Recorded
import FlowDouble.Proofs.Equality.Equations
import FlowDouble.Proofs.Equality.Agreement
import FlowDouble.Proofs.Equality.Nested
import FlowDouble.Proofs.Equality.Told
import FlowDouble.Proofs.Equality.Exchange
import FlowDouble.Proofs.Equality.Comparing
import FlowDouble.Proofs.Equality.Maps
import FlowDouble.Proofs.Context.FailedRedirects
import FlowDouble.Proofs.Parameters.Readers
import FlowDouble.Proofs.Context.Sessions
import FlowDouble.Proofs.Handlers.Signatures
import FlowDouble.Proofs.Attributes.Overlays
import FlowDouble.Proofs.Attributes.Mappings
import FlowDouble.Proofs.Attributes.Union
import FlowDouble.Proofs.Sorting
import FlowDouble.Proofs.Kinds
import FlowDouble.Proofs.Attributes.Required
import FlowDouble.Proofs.Numbers.Characters
import FlowDouble.Proofs.Numbers.Decimals
import FlowDouble.Proofs.Numbers.Spellings
import FlowDouble.Proofs.Parameters.Numbers
import FlowDouble.Proofs.Text.Words
import FlowDouble.Proofs.Parameters.Booleans
import FlowDouble.Proofs.Text.Quotes
import FlowDouble.Proofs.Parameters.Missing
import FlowDouble.Proofs.Ordering
import FlowDouble.Proofs.Reports.Notes
import FlowDouble.Proofs.Text.Blocks
import FlowDouble.Proofs.Text.Likeness
import FlowDouble.Proofs.Innocence
import FlowDouble.Proofs.Seeding.Settable
import FlowDouble.Proofs.Seeding.Suggestions
import FlowDouble.Proofs.Reports.Sections
import FlowDouble.Proofs.Reports.Telling
import FlowDouble.Proofs.Reports.Making
import FlowDouble.Proofs.Reports.History
import FlowDouble.Proofs.Reports.Unambiguous
import FlowDouble.Proofs.Streams.Tape
import FlowDouble.Proofs.Streams.Openings
