import AppResources.FileSet
import AppResources.Item
import AppResources.Operation
import AppResources.TableListing
import AppResources.Proofs.KeyedLaws
import AppResources.Proofs.Places
import AppResources.Proofs.Writes
import AppResources.Proofs.Requests
import AppResources.Proofs.Runs
import AppResources.Proofs.Order
import AppResources.Proofs.FiniteMap
import AppResources.Proofs.Collisions
import AppResources.Proofs.Idempotence
import AppResources.Proofs.Reordering
import AppResources.Proofs.Failures
import AppResources.Proofs.Refusals
import AppResources.Proofs.Identifiers
import AppResources.Proofs.IdentLookup
import AppResources.Proofs.Visibility
import AppResources.Proofs.Lockstep
import AppResources.Proofs.Reports
import AppResources.Proofs.Persistence
import AppResources.Proofs.Positions
import AppResources.Proofs.KeyOrder
import AppResources.Proofs.NameSplitting
import AppResources.Proofs.NameRoundTrip
import AppResources.Proofs.ReferenceRoundTrip
import AppResources.Proofs.Interning
import AppResources.Proofs.StyledInterning
import AppResources.Proofs.ValueEquality
import AppResources.Proofs.StrictCollisions
import AppResources.Proofs.Merging
import AppResources.Proofs.SlotHistories
import AppResources.Proofs.ExportReport
import AppResources.Proofs.SlotRanges
import AppResources.Proofs.Numerals
import AppResources.Proofs.IntegerLiterals
import AppResources.Proofs.IdentForms
import AppResources.Proofs.Colors
import AppResources.Proofs.ItemReading
