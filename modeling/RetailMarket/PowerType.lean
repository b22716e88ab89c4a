/-!
# Power types

What a customer consumes or produces, and what a tariff covers. A power type belongs to up to
four families; each family has a generic type whose tariffs all its members may use.
-/

namespace RetailMarket

inductive PowerType where
  | consumption
  | production
  | storage
  | interruptibleConsumption
  | thermalStorageConsumption
  | solarProduction
  | windProduction
  | runOfRiverProduction
  | pumpedStorageProduction
  | chpProduction
  | fossilProduction
  | batteryStorage
  | electricVehicle
  deriving DecidableEq, Repr, Inhabited

namespace PowerType

def all : List PowerType :=
  [consumption, production, storage, interruptibleConsumption, thermalStorageConsumption,
    solarProduction, windProduction, runOfRiverProduction, pumpedStorageProduction, chpProduction,
    fossilProduction, batteryStorage, electricVehicle]

theorem mem_all (p : PowerType) : p ∈ all := by
  cases p <;> decide

def label : PowerType → String
  | consumption => "CONSUMPTION"
  | production => "PRODUCTION"
  | storage => "STORAGE"
  | interruptibleConsumption => "INTERRUPTIBLE_CONSUMPTION"
  | thermalStorageConsumption => "THERMAL_STORAGE_CONSUMPTION"
  | solarProduction => "SOLAR_PRODUCTION"
  | windProduction => "WIND_PRODUCTION"
  | runOfRiverProduction => "RUN_OF_RIVER_PRODUCTION"
  | pumpedStorageProduction => "PUMPED_STORAGE_PRODUCTION"
  | chpProduction => "CHP_PRODUCTION"
  | fossilProduction => "FOSSIL_PRODUCTION"
  | batteryStorage => "BATTERY_STORAGE"
  | electricVehicle => "ELECTRIC_VEHICLE"

def ofLabel? (text : String) : Option PowerType :=
  all.find? fun p => p.label == text

@[simp]
theorem ofLabel?_label (p : PowerType) : ofLabel? p.label = some p := by
  cases p <;> decide

def isConsumption : PowerType → Bool
  | consumption | electricVehicle | interruptibleConsumption | thermalStorageConsumption => true
  | _ => false

def isProduction : PowerType → Bool
  | production | chpProduction | fossilProduction | runOfRiverProduction | solarProduction
  | windProduction => true
  | _ => false

/-- Load of these types can be curtailed on request. -/
def isInterruptible : PowerType → Bool
  | interruptibleConsumption | thermalStorageConsumption | batteryStorage | electricVehicle => true
  | _ => false

def isStorage : PowerType → Bool
  | storage | thermalStorageConsumption | batteryStorage | electricVehicle
  | pumpedStorageProduction => true
  | _ => false

/-- A customer uses tariffs of its own type and the generic ones of its families. -/
def canUse (customer tariff : PowerType) : Bool :=
  customer == tariff
    || (customer.isConsumption && tariff == consumption)
    || (customer.isProduction && tariff == production)
    || (customer.isStorage && tariff == storage)
    || (customer.isInterruptible && tariff == interruptibleConsumption)

@[simp]
theorem canUse_self (p : PowerType) : p.canUse p = true := by
  simp [canUse]

/-- The type whose default tariff stands in for a missing default of this type. -/
def generic (p : PowerType) : PowerType :=
  if p.isStorage then storage
  else if p.isConsumption then consumption
  else production

@[simp]
theorem canUse_generic (p : PowerType) : p.canUse p.generic = true := by
  cases p <;> decide

end PowerType

end RetailMarket
