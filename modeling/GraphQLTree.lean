import GraphQLTree.Command.Main
import GraphQLTree.Navigation.Script
import GraphQLTree.Proofs.Ancestors
import GraphQLTree.Proofs.Conversion.Bytes
import GraphQLTree.Proofs.Conversion.Faults
import GraphQLTree.Proofs.Conversion.Placements
import GraphQLTree.Proofs.Conversion.SourceOrder
import GraphQLTree.Proofs.Discovery
import GraphQLTree.Proofs.LevelSetting
import GraphQLTree.Proofs.Obtainable
import GraphQLTree.Proofs.Output
import GraphQLTree.Proofs.Rendering
import GraphQLTree.Proofs.Requests
import GraphQLTree.Proofs.UpdateLaws
import GraphQLTree.Proofs.Walk.Agreement
import GraphQLTree.Proofs.Walk.Order
import GraphQLTree.Proofs.Walk.Stop
import GraphQLTree.Proofs.Ways
import GraphQLTree.Serial.Stored
import GraphQLTree.Tree.Brief
